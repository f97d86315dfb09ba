import AgentMate.QuestionAnswers
import AgentMate.WorkerOutcome

/-! # The answer channel of an execution -/

namespace AgentMate

open List

variable {Hash : Type}

def Position.frames : Position → List (String × Json)
  | .emitting frames | .reporting frames => frames
  | _ => []

def Execution.AccountsFor (execution : Execution) (question : String) : Prop :=
  (∃ channel, execution.runtime.channel = some channel ∧ channel.question = question) ∨
    (∃ command, (question, command) ∈ execution.handed) ∨ execution.runtime.unwinding = true

/-- `Known` are the answers that the Server holds for the epoch of the execution. -/
structure ChannelInv (text : PyText) (Known : Command → Prop) (work : Workspace Hash) : Prop where
  epoch : work.transport.lease.map LocalLease.leaseEpoch = some work.execution.leaseEpoch
  frames : ∀ frame ∈ work.execution.position.frames, frame.1 ≠ "ask_user"
  fresh : work.execution.position.isFresh = true →
    work.execution.control = .absent ∧ work.execution.handed = []
  reported : ∀ row ∈ work.transport.written, row.leaseEpoch = work.execution.leaseEpoch →
    row.event.eventType = "run.waiting_user" → work.execution.AccountsFor row.event.eventId
  woken : ∀ channel, work.execution.runtime.channel = some channel → channel.woken = true →
    (∃ command, (channel.question, command) ∈ work.execution.handed) ∨
      work.execution.runtime.stop = true
  unwound : work.execution.runtime.unwinding = true → work.execution.runtime.channel = none
  matched : ∀ question command, (question, command) ∈ work.execution.handed →
    command.questionId text = question ∧ Known command ∧
      (command.id ∈ work.execution.acknowledged ∨ work.execution.control = .done)
  once : (work.execution.handed.map Prod.fst).Nodup
  taken : ∀ commands, work.execution.control = .handling commands → ∀ command ∈ commands,
    command.commandType = .askUserAnswer → Known command
  posted : ∀ lease, work.execution.control = .posted lease →
    lease.leaseEpoch = work.execution.leaseEpoch

def Unasked (before after : Transport Hash) : Prop :=
  after.lease = before.lease ∧ ∃ rows, after.written = before.written ++ rows ∧
    ∀ row ∈ rows, row.event.eventType ≠ "run.waiting_user"

structure ChannelKept (before after : Execution) : Prop where
  epoch : after.leaseEpoch = before.leaseEpoch
  channel : after.runtime.channel = before.runtime.channel
  stop : after.runtime.stop = before.runtime.stop
  unwinding : after.runtime.unwinding = before.runtime.unwinding
  handed : after.handed = before.handed
  acknowledged : before.acknowledged ⊆ after.acknowledged
  fresh : after.position.isFresh = true → before.position.isFresh = true
  frames : ∀ frame ∈ after.position.frames, frame ∈ before.position.frames ∨ frame.1 ≠ "ask_user"
  control : after.control = before.control ∨ after.position.isFresh = false ∧
    (after.control = .done ∨ after.control = .handling [] ∧ before.handed = [])

section

variable {agent : LocalAgent Hash} {clock : Time} {text : PyText} {Known : Command → Prop}

theorem unasked_refl (transport : Transport Hash) : Unasked transport transport :=
  ⟨rfl, [], by simp, by simp⟩

variable {events : List (String × Json)} {execution : Execution}

theorem unasked_of_appends {transport finish : Transport Hash}
    (appends : Appends agent clock transport events finish)
    (quiet : ∀ event ∈ events, event.1 ≠ "run.waiting_user") : Unasked transport finish := by
  obtain ⟨same, rows, written, reported, -⟩ := appends_rows appends
  refine ⟨same, rows, written, ?_⟩
  intro row mem
  apply quiet (row.event.eventType, row.event.payload)
  rw [← reported]
  exact mem_map_of_mem mem

theorem channel_kept_refl (execution : Execution) : ChannelKept execution execution :=
  ⟨rfl, rfl, rfl, rfl, rfl, List.Subset.refl _, id, fun _ mem => Or.inl mem, Or.inl rfl⟩

theorem note_channel_kept {eventType : String} {payload : Json} :
    ChannelKept execution (execution.note text eventType payload) :=
  ⟨rfl, rfl, rfl, rfl, rfl, List.Subset.refl _, id, fun _ mem => Or.inl mem, Or.inl rfl⟩

theorem channel_kept_trans {before middle after : Execution} (first : ChannelKept before middle)
    (second : ChannelKept middle after) : ChannelKept before after := by
  constructor
  · exact second.epoch.trans first.epoch
  · exact second.channel.trans first.channel
  · exact second.stop.trans first.stop
  · exact second.unwinding.trans first.unwinding
  · exact second.handed.trans first.handed
  · exact List.Subset.trans first.acknowledged second.acknowledged
  · exact fun fresh => first.fresh (second.fresh fresh)
  · intro frame mem
    rcases second.frames frame mem with earlier | other
    · exact first.frames frame earlier
    · exact Or.inr other
  · rcases second.control with same | ⟨started, changed⟩
    · rcases first.control with before_same | ⟨started, changed⟩
      · exact Or.inl (same.trans before_same)
      · right
        rw [same]
        refine ⟨?_, changed⟩
        by_contra fresh
        rw [Bool.not_eq_false] at fresh
        rw [second.fresh fresh] at started
        cases started
    · right
      refine ⟨started, ?_⟩
      rw [← first.handed]
      exact changed

theorem failed_kept {before after : Execution} (failed : before.Failed after) :
    ChannelKept before after := by
  obtain ⟨preflight, rfl | rfl⟩ := failed
  · exact ⟨rfl, rfl, rfl, rfl, rfl, List.Subset.refl _, nofun, nofun, Or.inl rfl⟩
  · exact ⟨rfl, rfl, rfl, rfl, rfl, List.Subset.refl _, nofun, nofun, Or.inl rfl⟩

theorem channel_inv_kept {before after : Workspace Hash} (inv : ChannelInv text Known before)
    (unasked : Unasked before.transport after.transport)
    (kept : ChannelKept before.execution after.execution) : ChannelInv text Known after := by
  obtain ⟨lease, rows, written, quiet⟩ := unasked
  constructor
  · rw [lease, kept.epoch]
    exact inv.epoch
  · intro frame mem
    rcases kept.frames frame mem with earlier | other
    · exact inv.frames frame earlier
    · exact other
  · intro fresh
    rw [kept.handed]
    obtain ⟨absent, handed⟩ := inv.fresh (kept.fresh fresh)
    rcases kept.control with same | ⟨started, -⟩
    · exact ⟨same.trans absent, handed⟩
    · rw [fresh] at started
      cases started
  · intro row mem epoch question
    rw [written] at mem
    rcases mem_append.mp mem with old | new
    · rw [kept.epoch] at epoch
      have accounted := inv.reported row old epoch question
      unfold Execution.AccountsFor at accounted ⊢
      rw [kept.channel, kept.handed, kept.unwinding]
      exact accounted
    · exact absurd question (quiet row new)
  · rw [kept.channel, kept.handed, kept.stop]
    exact inv.woken
  · rw [kept.channel, kept.unwinding]
    exact inv.unwound
  · intro question command mem
    rw [kept.handed] at mem
    obtain ⟨named, known, settled⟩ := inv.matched question command mem
    refine ⟨named, known, ?_⟩
    rcases settled with acknowledged | done
    · exact Or.inl (kept.acknowledged acknowledged)
    · right
      rcases kept.control with same | ⟨-, done | ⟨-, none⟩⟩
      · exact same.trans done
      · exact done
      · rw [none] at mem
        cases mem
  · rw [kept.handed]
    exact inv.once
  · intro commands handling command mem answer
    rcases kept.control with same | ⟨-, done | ⟨started, -⟩⟩
    · exact inv.taken commands (same.symm.trans handling) command mem answer
    · rw [done] at handling
      cases handling
    · cases started.symm.trans handling
      cases mem
  · intro lease posting
    rw [kept.epoch]
    rcases kept.control with same | ⟨-, done | ⟨started, -⟩⟩
    · exact inv.posted lease (same.symm.trans posting)
    · rw [done] at posting
      cases posting
    · rw [started] at posting
      cases posting

theorem unasked_channel_inv {transport after : Transport Hash}
    (inv : ChannelInv text Known ⟨transport, execution⟩) (unasked : Unasked transport after) :
    ChannelInv text Known ⟨after, execution⟩ :=
  channel_inv_kept inv unasked (channel_kept_refl execution)

theorem outcome_channel_inv {work next : Workspace Hash} {planned before : Execution}
    (inv : ChannelInv text Known work)
    (outcome : Outcome agent clock work.transport events planned before next)
    (quiet : ∀ event ∈ events, event.1 ≠ "run.waiting_user")
    (plannedKept : ChannelKept work.execution planned)
    (beforeKept : ChannelKept work.execution before) : ChannelInv text Known next := by
  cases outcome with
  | planned finish appends =>
    exact channel_inv_kept inv (unasked_of_appends appends quiet) plannedKept
  | failed added failure finish after start partly failures appends failed =>
    apply channel_inv_kept inv
    · apply unasked_of_appends appends
      intro event mem
      rcases mem_append.mp mem with early | late
      · exact quiet event (start.subset early)
      · rcases failures event late with type | type <;> simp [type]
    · exact channel_kept_trans beforeKept (failed_kept failed)

end

section

variable {agent : LocalAgent Hash} {clock : Time} {text : PyText} {Known : Command → Prop}
  {work next : Workspace Hash}

theorem fail_channel_inv (inv : ChannelInv text Known work) (preflight : Bool) (message : String) :
    ChannelInv text Known (work.fail agent clock preflight message) := by
  obtain ⟨failure, failures, appends, failed⟩ :=
    @fail_outcome _ agent clock work preflight message
  apply channel_inv_kept inv
  · apply unasked_of_appends appends
    intro event mem
    rcases failures event mem with type | type <;> simp [type]
  · exact failed_kept failed

theorem moved_channel_inv (inv : ChannelInv text Known work) {after : Execution}
    (kept : ChannelKept work.execution after) :
    ChannelInv text Known { work with execution := after } :=
  channel_inv_kept inv (unasked_refl work.transport) kept

theorem finish_channel_inv (inv : ChannelInv text Known work) :
    ChannelInv text Known (work.finish agent clock) := by
  obtain ⟨eventType, payload, phase, ends, outcome⟩ := @finish_outcome _ agent clock work
  apply outcome_channel_inv inv outcome
  · intro event mem
    rw [mem_singleton.mp mem]
    rcases ends with type | type | type <;> simp [type]
  · exact ⟨rfl, rfl, rfl, rfl, rfl, List.Subset.refl _, nofun, nofun, Or.inl rfl⟩
  · exact channel_kept_refl _

theorem proceed_channel_inv (inv : ChannelInv text Known work) :
    ChannelInv text Known (work.proceed agent clock) := by
  rcases @proceed_outcome _ agent clock work with same | same
  · rw [same]
    exact finish_channel_inv inv
  · rw [same]
    apply moved_channel_inv inv
    exact ⟨rfl, rfl, rfl, rfl, rfl, List.Subset.refl _, nofun, nofun, Or.inl rfl⟩

theorem pause_at_boundary_channel_inv (inv : ChannelInv text Known work) :
    ChannelInv text Known (work.pauseAtBoundary agent clock) := by
  rcases @pause_at_boundary_outcome _ agent clock work with
    same | ⟨-, events, pauses, outcome⟩
  · rw [same]
    exact proceed_channel_inv inv
  · apply outcome_channel_inv inv outcome
    · intro event mem
      rcases pauses event mem with type | type <;> simp [type]
    · exact ⟨rfl, rfl, rfl, rfl, rfl, List.Subset.refl _, nofun, nofun, Or.inl rfl⟩
    · exact ⟨rfl, rfl, rfl, rfl, rfl, List.Subset.refl _, id, fun _ mem => Or.inl mem, Or.inl rfl⟩

theorem ui_not_waiting (eventType : String) : "ui." ++ eventType ≠ "run.waiting_user" := by
  intro same
  have chars := congrArg String.toList same
  rw [String.toList_append] at chars
  have heads := congrArg List.head? chars
  cases heads

theorem frame_events_quiet {eventType : String} (payload : Json) (other : eventType ≠ "ask_user") :
    ∀ event ∈ frameEvents eventType payload, event.1 ≠ "run.waiting_user" := by
  intro event mem
  unfold frameEvents at mem
  split at mem
  · cases mem
  · rw [mem_singleton.mp mem]
    exact ui_not_waiting eventType

theorem emit_channel_inv (inv : ChannelInv text Known work) {eventType : String} {payload : Json}
    {rest : List (String × Json)}
    (position : work.execution.position = .emitting ((eventType, payload) :: rest)) :
    ChannelInv text Known (work.emit agent clock eventType payload rest) := by
  have other : eventType ≠ "ask_user" := by
    have quiet := inv.frames
    rw [position] at quiet
    exact quiet (eventType, payload) mem_cons_self
  have frames : ∀ frame ∈ rest, frame ∈ work.execution.position.frames := by
    rw [position]
    exact fun frame mem => mem_cons_of_mem _ mem
  have outcome := @emit_outcome _ agent clock work eventType payload rest
  rw [if_neg other] at outcome
  apply outcome_channel_inv inv outcome (frame_events_quiet payload other)
  · exact ⟨rfl, rfl, rfl, rfl, rfl, List.Subset.refl _, nofun,
      fun frame mem => Or.inl (frames frame mem), Or.inl rfl⟩
  · exact note_channel_kept

theorem start_channel_inv (inv : ChannelInv text Known work)
    (position : work.execution.position = .preparing) :
    ChannelInv text Known (work.start agent clock) := by
  obtain ⟨absent, none⟩ := inv.fresh (by rw [position]; rfl)
  have started : ∀ after : Execution, after.position.isFresh = false →
      (∀ frame ∈ after.position.frames, frame.1 ≠ "ask_user") →
      after.leaseEpoch = work.execution.leaseEpoch → after.runtime = work.execution.runtime →
      after.handed = work.execution.handed → after.acknowledged = work.execution.acknowledged →
      after.control = .handling [] → ChannelKept work.execution after := by
    intro after fresh frames epoch runtime handed acknowledged control
    constructor
    · exact epoch
    · rw [runtime]
    · rw [runtime]
    · rw [runtime]
    · exact handed
    · rw [acknowledged]
      exact List.Subset.refl _
    · intro still
      rw [fresh] at still
      cases still
    · exact fun frame mem => Or.inr (frames frame mem)
    · exact Or.inr ⟨fresh, Or.inr ⟨control, none⟩⟩
  generalize done : work.start agent clock = next
  have outcome := @start_outcome _ agent clock work
  rw [done] at outcome
  cases outcome with
  | planned finish appends =>
    apply channel_inv_kept inv (unasked_of_appends appends (by simp))
    exact started _ rfl nofun rfl rfl rfl rfl rfl
  | failed added failure finish after start partly failures appends failed =>
    apply channel_inv_kept inv
    · apply unasked_of_appends appends
      intro event mem
      rcases mem_append.mp mem with early | late
      · rw [mem_singleton.mp (start.subset early)]
        simp
      · rcases failures event late with type | type <;> simp [type]
    · obtain ⟨preflight, rfl | rfl⟩ := failed
      · exact started _ rfl nofun rfl rfl rfl rfl rfl
      · exact started _ rfl nofun rfl rfl rfl rfl rfl

theorem open_channel_inv (inv : ChannelInv text Known work) (question : String)
    (closed : work.execution.runtime.channel = none)
    (going : work.execution.runtime.unwinding = false) :
    ChannelInv text Known { work with execution := { work.execution with
      runtime := { work.execution.runtime with channel := some ⟨question, false, none⟩ } } } := by
  refine { inv with reported := ?_, woken := ?_, unwound := ?_ }
  · intro row mem epoch asked
    rcases inv.reported row mem epoch asked with ⟨channel, opened, -⟩ | answered | unwinding
    · rw [closed] at opened
      cases opened
    · exact Or.inr (Or.inl answered)
    · rw [going] at unwinding
      cases unwinding
  · intro channel opened woken
    cases opened
    cases woken
  · intro unwinding
    rw [going] at unwinding
    cases unwinding

theorem ask_channel_inv (inv : ChannelInv text Known work) (questions : List Json)
    (closed : work.execution.runtime.channel = none)
    (going : work.execution.runtime.unwinding = false) :
    ChannelInv text Known (work.ask agent clock questions) := by
  have opened := open_channel_inv inv (agent.uuid work.transport.written.length) closed going
  unfold Workspace.ask
  generalize asked : { work with execution := { work.execution with
      runtime := { work.execution.runtime with
        channel := some ⟨agent.uuid work.transport.written.length, false, none⟩ } } } = asking
    at opened ⊢
  have table : asking.transport = work.transport := by
    rw [← asked]
  have channel : asking.execution.runtime.channel =
      some ⟨agent.uuid work.transport.written.length, false, none⟩ := by
    rw [← asked]
  have outcome := @emit_outcome _ agent clock asking "ask_user"
    (.obj [("questions", .arr questions)]) []
  generalize done : asking.emit agent clock "ask_user" (.obj [("questions", .arr questions)]) [] =
    next at outcome
  have noted : ∀ position : Position, position.isFresh = false → position.frames = [] →
      ChannelKept asking.execution { asking.execution.note agent.host.toPyText "ask_user"
        (.obj [("questions", .arr questions)]) with position := position } := by
    intro position fresh frames
    constructor
    any_goals rfl
    · exact List.Subset.refl _
    · intro still
      rw [fresh] at still
      cases still
    · intro frame mem
      rw [frames] at mem
      cases mem
    · exact Or.inl rfl
  cases outcome with
  | planned finish appends =>
    cases appends with
    | cons appended rest =>
      cases rest
      obtain ⟨-, -, lease, -, -, rfl⟩ := append_event_ok appended
      have kept := moved_channel_inv opened (noted (.reporting []) rfl rfl)
      refine { kept with reported := ?_ }
      intro row mem epoch question
      rcases mem_append.mp mem with old | new
      · exact kept.reported row old epoch question
      · left
        refine ⟨_, channel, ?_⟩
        rw [mem_singleton.mp new, table]
        rfl
  | failed added failure finish after start partly failures appends failed =>
    have none : added = [] := by
      rcases prefix_cons_iff.mp start with empty | ⟨tail, whole, rest⟩
      · exact empty
      · rw [prefix_nil.mp rest] at whole
        exact absurd whole partly
    rw [none, nil_append] at appends
    apply channel_inv_kept opened
    · apply unasked_of_appends appends
      intro event mem
      rcases failures event mem with type | type <;> simp [type]
    · exact channel_kept_trans note_channel_kept (failed_kept failed)

theorem wake_channel_inv (inv : ChannelInv text Known work) {channel : Channel}
    (opened : work.execution.runtime.channel = some channel) (woken : channel.woken = true) :
    ChannelInv text Known { work with execution := { work.execution with
      runtime := { work.execution.runtime with
        channel := none, unwinding := work.execution.runtime.stop } } } := by
  refine { inv with reported := ?_, woken := nofun, unwound := fun _ => rfl }
  intro row mem epoch question
  right
  rcases inv.reported row mem epoch question with ⟨found, again, same⟩ | answered | unwinding
  · cases opened.symm.trans again
    rcases inv.woken channel opened woken with ⟨command, answered⟩ | stopped
    · rw [← same]
      exact Or.inl ⟨command, answered⟩
    · exact Or.inr stopped
  · exact Or.inl answered
  · rw [inv.unwound unwinding] at opened
    cases opened

theorem stop_channel_inv (inv : ChannelInv text Known work) :
    ChannelInv text Known { work with execution := work.execution.stop } := by
  unfold Execution.stop Runtime.requestStop
  split
  · refine { inv with reported := ?_, woken := fun _ _ _ => Or.inr rfl, unwound := ?_ }
    · intro row mem epoch question
      rcases inv.reported row mem epoch question with ⟨channel, opened, same⟩ | later
      · left
        refine ⟨{ channel with woken := true }, ?_, same⟩
        dsimp only
        rw [opened]
        rfl
      · exact Or.inr later
    · intro unwinding
      dsimp only
      rw [inv.unwound unwinding]
      rfl
  · exact { inv with }

/-! The control coroutine. -/

theorem created_not_fresh (inv : ChannelInv text Known work)
    (created : work.execution.control ≠ .absent) : work.execution.position.isFresh = false := by
  by_contra fresh
  rw [Bool.not_eq_false] at fresh
  exact created (inv.fresh fresh).1

theorem control_channel_inv (inv : ChannelInv text Known work) {control : Control}
    (created : work.execution.control ≠ .absent)
    (ending : work.execution.control = .done → control = .done)
    (taken : ∀ commands, control = .handling commands → ∀ command ∈ commands,
      command.commandType = .askUserAnswer → Known command)
    (posted : ∀ lease, control = .posted lease → lease.leaseEpoch = work.execution.leaseEpoch) :
    ChannelInv text Known
      { work with execution := { work.execution with control := control } } := by
  refine { inv with fresh := ?_, matched := ?_, taken := taken, posted := posted }
  · intro fresh
    have started := created_not_fresh inv created
    exact absurd (started.symm.trans fresh) (by simp)
  · intro question command mem
    obtain ⟨named, known, settled⟩ := inv.matched question command mem
    exact ⟨named, known, settled.imp_right ending⟩

theorem done_channel_inv (inv : ChannelInv text Known work)
    (created : work.execution.control ≠ .absent) :
    ChannelInv text Known { work with execution := { work.execution with control := .done } } := by
  apply control_channel_inv inv created
  · intro _
    rfl
  · intro commands handling
    cases handling
  · intro lease posting
    cases posting

theorem settled_channel_inv (inv : ChannelInv text Known work) {after : Transport Hash}
    (settled : Settled work.transport after) :
    ChannelInv text Known { work with transport := after } := by
  refine { inv with epoch := ?_, reported := ?_ }
  · rw [settled.epoch]
    exact inv.epoch
  · intro row mem
    rw [settled.written] at mem
    exact inv.reported row mem

theorem settle_renewal_channel_inv (inv : ChannelInv text Known work) {lease : LocalLease}
    {reply : Reply LeaseRenewal} (posting : work.execution.control = .posted lease)
    (known : ∀ renewal, reply = .answered (.ok renewal) → ∀ command ∈ renewal.commands,
      command.commandType = .askUserAnswer → Known command) :
    ChannelInv text Known (work.settleRenewal clock lease reply) := by
  have settled := (settle_renewal_settled work.transport lease clock reply).1
  have created : work.execution.control ≠ .absent := by
    rw [posting]
    nofun
  have tables := settled_channel_inv inv settled
  unfold Workspace.settleRenewal
  dsimp only
  split
  · exact done_channel_inv tables created
  · split
    · next commands answered =>
      apply control_channel_inv tables created
      · intro done
        rw [show work.execution.control = .done from done] at posting
        cases posting
      · intro handled same command mem answer
        cases same
        unfold Transport.settleRenewal at answered
        split at answered
        · next renewal =>
          cases answered
          exact known renewal rfl command mem answer
        · cases answered
        · cases answered
        · split at answered
          · cases answered
          · cases answered
            cases mem
      · intro lease posted
        cases posted
    · exact done_channel_inv (stop_channel_inv tables) created

theorem acknowledge_channel_inv (inv : ChannelInv text Known work)
    (created : work.execution.control ≠ .absent) (command : Command) :
    ChannelInv text Known (work.acknowledge agent clock command) := by
  obtain ⟨added, acknowledgements, appends, handled⟩ :=
    @acknowledge_outcome _ agent clock work command
  have started := created_not_fresh inv created
  apply channel_inv_kept inv
  · apply unasked_of_appends appends
    intro event mem
    simp [acknowledgements event mem]
  · rcases handled with same | same
    · rw [same]
      exact ⟨rfl, rfl, rfl, rfl, rfl, subset_cons_self _ _, id, fun _ mem => Or.inl mem, Or.inl rfl⟩
    · rw [same]
      exact ⟨rfl, rfl, rfl, rfl, rfl, List.Subset.refl _, id, fun _ mem => Or.inl mem,
        Or.inr ⟨started, Or.inl rfl⟩⟩

theorem restart_channel_inv (inv : ChannelInv text Known work)
    (created : work.execution.control ≠ .absent) (resumedFrom : String) (opensGate : Bool)
    (command : Command) :
    ChannelInv text Known (work.restart agent clock resumedFrom opensGate command) := by
  obtain ⟨added, gateSet, reports, appends, handled⟩ :=
    @restart_outcome _ agent clock work resumedFrom opensGate command
  have started := created_not_fresh inv created
  apply channel_inv_kept inv
  · apply unasked_of_appends appends
    intro event mem
    rcases reports event mem with type | type <;> simp [type]
  · rcases handled with same | same
    · rw [same]
      exact ⟨rfl, rfl, rfl, rfl, rfl, subset_cons_self _ _, id, fun _ mem => Or.inl mem, Or.inl rfl⟩
    · rw [same]
      exact ⟨rfl, rfl, rfl, rfl, rfl, List.Subset.refl _, id, fun _ mem => Or.inl mem,
        Or.inr ⟨started, Or.inl rfl⟩⟩

end

/-- Every answer names a question that the execution reported, and no other answer does. -/
structure AnswersKnown (text : PyText) (Known : Command → Prop) (work : Workspace Hash) : Prop where
  reported : ∀ command, Known command → ∃ row ∈ work.transport.written,
    row.leaseEpoch = work.execution.leaseEpoch ∧
      row.event.eventType = "run.waiting_user" ∧ row.event.eventId = command.questionId text
  single : ∀ earlier later, Known earlier → Known later →
    earlier.questionId text = later.questionId text → earlier.id = later.id

variable {agent : LocalAgent Hash} {clock : Time} {text : PyText} {Known : Command → Prop}
  {work next : Workspace Hash}

variable {channel : Channel} {command : Command}

theorem runtime_waiting {runtime : Runtime} (waiting : runtime.waiting = some channel) :
    runtime.registered = true ∧ runtime.channel = some channel := by
  unfold Runtime.waiting at waiting
  split at waiting
  · next registered => exact ⟨registered, waiting⟩
  · cases waiting

theorem answer_matches (inv : ChannelInv text Known work) (answers : AnswersKnown text Known work)
    (known : Known command) (unseen : command.id ∉ work.execution.acknowledged)
    (going : work.execution.control ≠ .done)
    (opened : work.execution.runtime.channel = some channel) :
    command.questionId text = channel.question ∧
      ∀ earlier, (channel.question, earlier) ∉ work.execution.handed := by
  have unanswered : ∀ question earlier, command.questionId text = question →
      (question, earlier) ∉ work.execution.handed := by
    intro question earlier same mem
    obtain ⟨named, earlierKnown, settled⟩ := inv.matched question earlier mem
    have one : earlier.id = command.id :=
      answers.single earlier command earlierKnown known (named.trans same.symm)
    rw [one] at settled
    exact settled.elim unseen going
  obtain ⟨row, written, epoch, type, named⟩ := answers.reported command known
  have asked : command.questionId text = channel.question := by
    rcases inv.reported row written epoch type with
      ⟨found, again, same⟩ | ⟨earlier, answered⟩ | unwinding
    · cases opened.symm.trans again
      rw [same, named]
    · exact absurd answered (unanswered _ earlier named.symm)
    · rw [inv.unwound unwinding] at opened
      cases opened
  exact ⟨asked, fun earlier => unanswered _ earlier asked⟩

theorem answered_channel_inv (inv : ChannelInv text Known work)
    (answers : AnswersKnown text Known work) (known : Known command)
    (unseen : command.id ∉ work.execution.acknowledged) (going : work.execution.control ≠ .done)
    (opened : work.execution.runtime.channel = some channel)
    {after : Execution} (epoch : after.leaseEpoch = work.execution.leaseEpoch)
    (position : after.position = work.execution.position)
    (created : work.execution.control ≠ .absent)
    (woken : ∃ answer, after.runtime = { work.execution.runtime with
      channel := some { channel with woken := true, answers := some answer } })
    (handed : after.handed = work.execution.handed ++ [(channel.question, command)])
    (handled : after.acknowledged = command.id :: work.execution.acknowledged ∧
        after.control = work.execution.control ∨
      after.acknowledged = work.execution.acknowledged ∧ after.control = .done) :
    ChannelInv text Known { work with execution := after } := by
  obtain ⟨asked, unanswered⟩ := answer_matches inv answers known unseen going opened
  obtain ⟨answer, runtime⟩ := woken
  have started := created_not_fresh inv created
  constructor
  · rw [epoch]
    exact inv.epoch
  · rw [position]
    exact inv.frames
  · intro fresh
    rw [position, started] at fresh
    cases fresh
  · intro row mem rowEpoch question
    rw [epoch] at rowEpoch
    unfold Execution.AccountsFor
    rw [runtime, handed]
    rcases inv.reported row mem rowEpoch question with
      ⟨found, again, same⟩ | ⟨earlier, handedEarlier⟩ | unwinding
    · cases opened.symm.trans again
      exact Or.inl ⟨_, rfl, same⟩
    · exact Or.inr (Or.inl ⟨earlier, mem_append_left _ handedEarlier⟩)
    · exact Or.inr (Or.inr unwinding)
  · intro found again _
    rw [runtime] at again
    cases again
    rw [handed]
    exact Or.inl ⟨command, mem_append_right _ (mem_singleton.mpr rfl)⟩
  · intro unwinding
    rw [runtime] at unwinding
    have closed := inv.unwound unwinding
    rw [opened] at closed
    cases closed
  · intro question other mem
    rw [handed] at mem
    rcases mem_append.mp mem with old | new
    · obtain ⟨named, otherKnown, settled⟩ := inv.matched question other old
      refine ⟨named, otherKnown, ?_⟩
      rcases handled with ⟨acknowledged, control⟩ | ⟨-, done⟩
      · rw [acknowledged, control]
        exact settled.imp_left (mem_cons_of_mem _)
      · exact Or.inr done
    · cases mem_singleton.mp new
      refine ⟨asked, known, ?_⟩
      rcases handled with ⟨acknowledged, -⟩ | ⟨-, done⟩
      · rw [acknowledged]
        exact Or.inl mem_cons_self
      · exact Or.inr done
  · rw [handed, map_append, map_singleton]
    apply inv.once.append (nodup_singleton _)
    intro question mem last
    obtain ⟨⟨asking, earlier⟩, listed, rfl⟩ := mem_map.mp mem
    have same : asking = channel.question := mem_singleton.mp last
    subst same
    exact unanswered earlier listed
  · intro commands handling
    rcases handled with ⟨-, control⟩ | ⟨-, done⟩
    · exact inv.taken commands (control.symm.trans handling)
    · rw [done] at handling
      cases handling
  · intro lease posting
    rw [epoch]
    rcases handled with ⟨-, control⟩ | ⟨-, done⟩
    · exact inv.posted lease (control.symm.trans posting)
    · rw [done] at posting
      cases posting

theorem answer_channel_inv (inv : ChannelInv text Known work)
    (answers : AnswersKnown text Known work) (known : Known command)
    (unseen : command.id ∉ work.execution.acknowledged) (going : work.execution.control ≠ .done)
    (created : work.execution.control ≠ .absent) (phase : Phase) :
    ChannelInv text Known (Workspace.restart agent clock
      { work with execution := { work.execution.answer agent.host.toPyText command with
        slotHeld := true, phase := phase } } "waiting_user" false command) := by
  cases waiting : work.execution.runtime.waiting with
  | none =>
    apply restart_channel_inv
    · apply moved_channel_inv inv
      have same : work.execution.answer agent.host.toPyText command = work.execution := by
        simp only [Execution.answer, Runtime.submitAnswers, waiting]
      rw [same]
      exact ⟨rfl, rfl, rfl, rfl, rfl, List.Subset.refl _, id, fun _ mem => Or.inl mem, Or.inl rfl⟩
    · exact created
  | some channel =>
    obtain ⟨-, opened⟩ := runtime_waiting waiting
    obtain ⟨added, gateSet, reports, appends, handled⟩ := @restart_outcome _ agent clock
      { work with execution := { work.execution.answer agent.host.toPyText command with
        slotHeld := true, phase := phase } } "waiting_user" false command
    generalize Workspace.restart agent clock { work with
      execution := { work.execution.answer agent.host.toPyText command with
        slotHeld := true, phase := phase } } "waiting_user" false command = next
      at appends handled ⊢
    have answered : ChannelInv text Known ⟨work.transport, next.execution⟩ := by
      apply answered_channel_inv inv answers known unseen going opened
      · rcases handled with same | same <;> rw [same] <;> rfl
      · rcases handled with same | same <;> rw [same] <;> rfl
      · exact created
      · refine ⟨(command.payload.listField "answers").map (Json.pyStr agent.host.toPyText), ?_⟩
        rcases handled with same | same <;>
          simp only [same, Execution.answer, Runtime.submitAnswers, waiting]
      · rcases handled with same | same <;> simp only [same, Execution.answer, waiting]
      · rcases handled with same | same
        · exact Or.inl (by rw [same]; exact ⟨rfl, rfl⟩)
        · exact Or.inr (by rw [same]; exact ⟨rfl, rfl⟩)
    apply unasked_channel_inv answered
    apply unasked_of_appends appends
    intro event mem
    rcases reports event mem with type | type <;> simp [type]

theorem handle_channel_inv (inv : ChannelInv text Known work)
    (answers : AnswersKnown text Known work) (created : work.execution.control ≠ .absent)
    (going : work.execution.control ≠ .done) (room : Bool)
    (known : command.commandType = .askUserAnswer → Known command) :
    ChannelInv text Known (work.handle agent clock room command) := by
  unfold Workspace.handle
  split
  · exact inv
  · next unseen =>
    rw [not_or] at unseen
    split
    · exact acknowledge_channel_inv (stop_channel_inv inv) created command
    · split
      · exact acknowledge_channel_inv inv created command
      · apply moved_channel_inv inv
        exact ⟨rfl, rfl, rfl, rfl, rfl, subset_cons_self _ _, id,
          fun _ mem => Or.inl mem, Or.inl rfl⟩
    · split
      · split
        · next execution taken =>
          obtain ⟨-, rfl⟩ := reacquire_some taken
          apply restart_channel_inv
          · apply moved_channel_inv inv
            exact ⟨rfl, rfl, rfl, rfl, rfl, List.Subset.refl _, id,
              fun _ mem => Or.inl mem, Or.inl rfl⟩
          · exact created
        · exact inv
      · exact acknowledge_channel_inv inv created command
    · next answer =>
      split
      · next execution taken =>
        obtain ⟨-, rfl⟩ := reacquire_some taken
        exact answer_channel_inv inv answers (known answer) unseen.2 going created .running
      · exact inv

theorem task_channel_inv {task : Task} (inv : ChannelInv text Known work)
    (answers : AnswersKnown text Known work) (other : task.isSettle = false)
    (move : work.Move agent clock task next) :
    ChannelInv text Known next := by
  have moved : ∀ {after : Execution}, after.runtime = work.execution.runtime →
      after.control = work.execution.control → after.handed = work.execution.handed →
      after.acknowledged = work.execution.acknowledged →
      after.leaseEpoch = work.execution.leaseEpoch →
      (after.position.isFresh = true → work.execution.position.isFresh = true) →
      (∀ frame ∈ after.position.frames,
        frame ∈ work.execution.position.frames ∨ frame.1 ≠ "ask_user") →
      ChannelInv text Known { work with execution := after } := by
    intro after runtime control handed acknowledged epoch fresh frames
    apply moved_channel_inv inv
    constructor
    · exact epoch
    · rw [runtime]
    · rw [runtime]
    · rw [runtime]
    · exact handed
    · rw [acknowledged]
      exact List.Subset.refl _
    · exact fresh
    · exact frames
    · exact Or.inl control
  cases move with
  | load position =>
    have fresh : work.execution.position.isFresh = true := by
      rw [position]
      rfl
    exact moved rfl rfl rfl rfl rfl (fun _ => fresh) nofun
  | loaded position =>
    have fresh : work.execution.position.isFresh = true := by
      rw [position]
      rfl
    exact moved rfl rfl rfl rfl rfl (fun _ => fresh) nofun
  | prepare position => exact start_channel_inv inv position
  | preflightFail message => exact fail_channel_inv inv true message
  | begin position => exact moved rfl rfl rfl rfl rfl nofun nofun
  | register position registered =>
    apply moved_channel_inv inv
    exact ⟨rfl, rfl, rfl, rfl, rfl, List.Subset.refl _, id, fun _ mem => Or.inl mem, Or.inl rfl⟩
  | yieldFrames frames position closed quiet =>
    exact moved rfl rfl rfl rfl rfl nofun (fun frame mem => Or.inr (quiet frame mem))
  | ask questions position closed registered going =>
    exact ask_channel_inv inv questions closed going
  | wake channel position opened woken => exact wake_channel_inv inv opened woken
  | emit eventType payload rest position => exact emit_channel_inv inv position
  | reported rest position =>
    have frames : ∀ frame ∈ rest, frame ∈ work.execution.position.frames := by
      rw [position]
      exact fun frame mem => mem
    exact moved rfl rfl rfl rfl rfl nofun (fun frame mem => Or.inl (frames frame mem))
  | confirmed position => exact moved rfl rfl rfl rfl rfl nofun nofun
  | boundary position => exact pause_at_boundary_channel_inv inv
  | leavePause position => exact proceed_channel_inv inv
  | finish position closed =>
    apply finish_channel_inv
    apply moved_channel_inv inv
    exact ⟨rfl, rfl, rfl, rfl, rfl, List.Subset.refl _, id, fun _ mem => Or.inl mem, Or.inl rfl⟩
  | fail message => exact fail_channel_inv inv false message
  | close terminal => exact moved rfl rfl rfl rfl rfl nofun nofun
  | leave ended => exact moved rfl rfl rfl rfl rfl id (fun _ mem => Or.inl mem)
  | cancel =>
    apply moved_channel_inv inv
    exact ⟨rfl, rfl, rfl, rfl, rfl, List.Subset.refl _, nofun, nofun, Or.inr ⟨rfl, Or.inl rfl⟩⟩
  | renew lease handling held active =>
    have epoch := inv.epoch
    rw [held] at epoch
    apply control_channel_inv inv
    · rw [handling]
      nofun
    · intro done
      rw [handling] at done
      cases done
    · intro commands posting
      cases posting
    · intro posted same
      cases same
      exact Option.some.inj epoch
  | fenced handling =>
    apply done_channel_inv (stop_channel_inv inv)
    have created : work.execution.control ≠ .absent := by
      rw [handling]
      nofun
    exact created
  | settle => cases other
  | handle room command rest handling =>
    have created : work.execution.control ≠ .absent := by
      rw [handling]
      nofun
    have resting : ChannelInv text Known { work with
        execution := { work.execution with control := .handling rest } } := by
      apply control_channel_inv inv created
      · intro done
        rw [handling] at done
        cases done
      · intro commands same other mem
        cases same
        exact inv.taken _ handling other (mem_cons_of_mem command mem)
      · intro lease posting
        cases posting
    apply handle_channel_inv resting
    · exact ⟨answers.reported, answers.single⟩
    · nofun
    · nofun
    · exact inv.taken _ handling command mem_cons_self

end AgentMate
