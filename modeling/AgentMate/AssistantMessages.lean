import AgentMate.StoredTranscript
import Mathlib.Data.List.Induction

/-! # The assistant message of a Run -/

namespace AgentMate

open TransitionSystem Rollback List

variable {Hash : Type}

/-- The text of a `ui.text` event. -/
def shownText (text : PyText) (row : EventRow Hash) : Option String :=
  if row.eventType = "ui.text" then some (row.payload.strField text "md") else none

def shownItem (text : PyText) (row : EventRow Hash) : Option Json :=
  if row.eventType ∈ ["ui.text", "ui.usage", "ui.error"] then none
  else (traceItem text row.eventType row.payload).toOption.join

def settledTrace : List Json → List Json
  | [] => []
  | item :: rest =>
    if isPlanOrTodoKind (traceKind item) && rest.any fun other => isPlanKind (traceKind other) then
      settledTrace rest
    else item :: settledTrace rest

theorem settled_trace_append (items : List Json) (item : Json) : settledTrace (items ++ [item]) =
      (if isPlanKind (traceKind item) then
        (settledTrace items).filter fun other => !isPlanOrTodoKind (traceKind other)
      else settledTrace items) ++ [item] := by
  induction items with
  | nil => cases plan : isPlanKind (traceKind item) <;> simp [settledTrace]
  | cons first rest ih =>
    rw [cons_append, settledTrace, ih, settledTrace]
    cases plan : isPlanKind (traceKind item) <;>
      cases replaced : isPlanOrTodoKind (traceKind first) <;>
      cases later : rest.any (fun other => isPlanKind (traceKind other)) <;>
      simp [plan, replaced, later]

theorem settled_trace_length (items : List Json) : (settledTrace items).length ≤ items.length := by
  induction items with
  | nil => exact le_rfl
  | cons first rest ih =>
    rw [settledTrace]
    split
    · exact ih.trans (Nat.le_succ _)
    · exact Nat.succ_le_succ ih

theorem append_trace_item_length (trace : List Json) (item : Json)
    (short : trace.length ≤ traceCap) : (appendTraceItem trace item).length ≤ traceCap := by
  have kept (chosen : Json → Bool) : (trace.filter chosen).length ≤ traceCap :=
    (length_filter_le chosen trace).trans short
  simp only [appendTraceItem]
  split <;> split
  · next room =>
    rw [length_append]
    exact room
  · exact kept _
  · next room =>
    rw [length_append]
    exact room
  · exact short

theorem committed_trace_length (items trace : List Json) (short : trace.length ≤ traceCap) :
    (items.foldl appendTraceItem trace).length ≤ traceCap := by
  induction items generalizing trace with
  | nil => exact short
  | cons item rest ih => exact ih _ (append_trace_item_length trace item short)

theorem fold_trace_settled (items : List Json) (few : items.length ≤ traceCap) :
    items.foldl appendTraceItem [] = settledTrace items := by
  induction items using List.reverseRecOn with
  | nil => rfl
  | append_singleton items item ih =>
    rw [length_append, length_singleton] at few
    rw [foldl_append, foldl_cons, foldl_nil, ih (by omega), settled_trace_append, appendTraceItem]
    have bound := settled_trace_length items
    split <;> rw [if_pos]
    · have kept := length_filter_le (fun other => !isPlanOrTodoKind (traceKind other))
        (settledTrace items)
      omega
    · omega

theorem fold_output_shown {text : PyText} {row : EventRow Hash} {fold next : OutputFold}
    (done : foldOutput text fold row.eventType row.payload = .ok next) :
    next.content = fold.content ++ (shownText text row).toList ∧
      next.trace = (shownItem text row).toList.foldl appendTraceItem fold.trace := by
  unfold foldOutput at done
  by_cases isText : row.eventType = "ui.text"
  · rw [if_pos isText] at done
    cases done
    simp [shownText, shownItem, isText]
  by_cases isUsage : row.eventType = "ui.usage"
  · rw [if_neg isText, if_pos isUsage] at done
    obtain ⟨prompt, -, rest⟩ := bind_ok done
    obtain ⟨completion, -, same⟩ := bind_ok rest
    cases same
    simp [shownText, shownItem, isUsage]
  by_cases isError : row.eventType = "ui.error"
  · rw [if_neg isText, if_neg isUsage, if_pos isError] at done
    cases done
    simp [shownText, shownItem, isError]
  · rw [if_neg isText, if_neg isUsage, if_neg isError] at done
    obtain ⟨item, found, rest⟩ := bind_ok done
    cases item with
    | none =>
      cases rest
      simp [shownText, shownItem, isText, isUsage, isError, found, Except.toOption]
    | some item =>
      cases rest
      simp [shownText, shownItem, isText, isUsage, isError, found, Except.toOption]

theorem filter_map_cons_list {Item Value : Type} (shown : Item → Option Value) (item : Item)
    (rest : List Item) :
    (item :: rest).filterMap shown = (shown item).toList ++ rest.filterMap shown := by
  cases found : shown item <;> simp [found]

theorem fold_rows_shown {text : PyText} {rows : List (EventRow Hash)} {fold final : OutputFold}
    (done : rows.foldlM (fun fold row => foldOutput text fold row.eventType row.payload) fold =
      .ok final) :
    final.content = fold.content ++ rows.filterMap (shownText text) ∧
      final.trace = (rows.filterMap (shownItem text)).foldl appendTraceItem fold.trace := by
  induction rows generalizing fold with
  | nil =>
    cases done
    simp
  | cons row rest ih =>
    obtain ⟨middle, pass, remaining⟩ := fold_cons_ok done
    obtain ⟨content, trace⟩ := fold_output_shown pass
    obtain ⟨contentRest, traceRest⟩ := ih remaining
    rw [contentRest, traceRest, content, trace, filter_map_cons_list, filter_map_cons_list,
      append_assoc, foldl_append]
    exact ⟨rfl, rfl⟩

def toldMessages (messages : List Message) (runId : String) : List Message :=
  messages.filter fun message => message.runId = runId && message.role = .assistant

variable {messages : List Message}

theorem told_messages_nil {runId : String} :
    toldMessages messages runId = [] ↔ assistantMessage messages runId = none := by
  rw [assistantMessage, head?_eq_none_iff]
  constructor
  · intro none
    rw [toldMessages] at none
    rw [none]
    rfl
  · intro sorted
    have same := perm_insertionSort (fun left right : Message => left.sequence ≤ right.sequence)
      (toldMessages messages runId)
    exact nil_perm.mp (sorted ▸ same)

theorem assistant_message_told {runId : String} {message : Message}
    (told : assistantMessage messages runId = some message) :
    message ∈ toldMessages messages runId := by
  have mem := mem_of_head? told
  exact (mem_insertionSort _).mp mem

def MessagesGrow (old new : List Message) : Prop :=
  ∀ runId, toldMessages new runId = toldMessages old runId ∨
    (toldMessages old runId = [] ∧ ∃ message, toldMessages new runId = [message])

theorem messages_grow_refl (messages : List Message) : MessagesGrow messages messages :=
  fun _ => .inl rfl

theorem messages_grow_trans {first second third : List Message} (left : MessagesGrow first second)
    (right : MessagesGrow second third) : MessagesGrow first third := by
  intro runId
  rcases right runId with same | ⟨absent, added⟩
  · rw [same]
    exact left runId
  · rcases left runId with same | ⟨-, message, told⟩
    · rw [same] at absent
      exact .inr ⟨absent, added⟩
    · rw [told] at absent
      cases absent

theorem messages_grow_added {message : Message}
    (absent : assistantMessage messages message.runId = none) :
    MessagesGrow messages (messages ++ [message]) := by
  intro runId
  rw [toldMessages, filter_append, ← toldMessages]
  by_cases own : message.runId = runId ∧ message.role = .assistant
  · have nothing := told_messages_nil.mpr (own.1 ▸ absent)
    refine .inr ⟨nothing, message, ?_⟩
    rw [nothing]
    simp [own]
  · left
    simpa using own

theorem store_assistant_grows (messages : List Message) (message : Message) :
    MessagesGrow messages (storeAssistant messages message) := by
  rcases store_assistant_cases messages message with ⟨-, kept⟩ | ⟨absent, added⟩
  · rw [kept]
    exact messages_grow_refl messages
  · rw [added]
    exact messages_grow_added absent

theorem effect_messages_grow {now : Time} {store next : Store Hash}
    (effect : Effect now store next) :
    MessagesGrow store.business.messages next.business.messages := by
  rcases effect_messages effect with kept | ⟨message, after, -, -, absent, added⟩
  · rw [kept]
    exact messages_grow_refl _
  · rw [added]
    exact messages_grow_added absent

theorem effects_messages_grow {now : Time} {store next : Store Hash}
    (effects : Effects now store next) :
    MessagesGrow store.business.messages next.business.messages := by
  induction effects with
  | refl => exact messages_grow_refl _
  | tail _ effect ih => exact messages_grow_trans ih (effect_messages_grow effect)

section

variable {host : Host Hash} {lease : Lease} {now : Time} {batch next : Batch Hash}
  {event : RunEvent Hash}

theorem applied_messages_grow (applied : Applied host lease now batch next event) :
    MessagesGrow batch.store.business.messages next.store.business.messages := by
  obtain ⟨output, business, written, after⟩ := applied.store
  rw [after, after_event_business]
  rcases event_business_messages written with ⟨-, kept⟩ |
    ⟨-, fold, message, -, -, -, -, -, messages⟩
  · rw [kept]
    exact messages_grow_refl _
  · rw [messages]
    exact store_assistant_grows _ message

theorem applied_all_messages_grow [DecidableEq Hash] {final : Batch Hash} {events : List (RunEvent Hash)}
    (applied : AppliedAll host lease now batch events final) :
    MessagesGrow batch.store.business.messages final.store.business.messages := by
  induction applied with
  | nil => exact messages_grow_refl _
  | cons _ _ first _ ih => exact messages_grow_trans (applied_messages_grow first) ih

end

section

variable [DecidableEq Hash] {host : Host Hash} {server next later : Server Hash}

theorem server_step_messages {action : Server.Action Hash}
    (reachable : (serverMachine host).Reachable Anything server)
    (step : (serverMachine host).Step server action next) :
    MessagesGrow server.store.business.messages next.store.business.messages := by
  rcases server_step_cases (server_lease_inv reachable) (server_log_inv reachable) step with
    effects | ⟨lease, events, final, -, -, applied, -, same⟩
  · exact effects_messages_grow effects
  · rw [same]
    exact applied_all_messages_grow applied

theorem server_path_messages (reachable : (serverMachine host).Reachable Anything server)
    (path : (serverMachine host).Path Anything server later) :
    MessagesGrow server.store.business.messages later.store.business.messages := by
  apply path_stable (fun later => MessagesGrow server.store.business.messages
    later.store.business.messages) reachable ?_ (messages_grow_refl _) path
  intro middle action next reached grown _ step
  exact messages_grow_trans grown (server_step_messages reached step)

theorem server_told_once (reachable : (serverMachine host).Reachable Anything server)
    {runId : String} {message : Message}
    (told : assistantMessage server.store.business.messages runId = some message) :
    toldMessages server.store.business.messages runId = [message] := by
  obtain ⟨start, initial, path⟩ := reachable
  have fresh : start.store.Fresh := initial
  have nothing : toldMessages start.store.business.messages runId = [] := by
    apply filter_eq_nil_iff.mpr
    intro message mem
    simp [fresh.messages message mem]
  have mem := assistant_message_told told
  rcases server_path_messages ⟨start, initial, .refl start⟩ path runId with same | ⟨-, only, alone⟩
  · rw [same, nothing] at mem
    cases mem
  · rw [alone] at mem ⊢
    rw [mem_singleton.mp mem]

/-- A terminal event that the Server has accepted stands for one assistant message: the texts of
its epoch in order, and the trace items that no later plan replaces. It stays the only one. -/
theorem terminal_output_reconstructed (host : Host Hash)
    (reachable : (serverMachine host).Reachable Anything server) {row : EventRow Hash}
    (stored : row ∈ server.store.events) (terminal : row.isTerminal = true) :
    ∃ message, toldMessages server.store.business.messages row.runId = [message] ∧
      message.content = String.join
        ((server.store.shownLog row.runId row.leaseEpoch).filterMap (shownText host.toPyText)) ∧
      (((server.store.shownLog row.runId row.leaseEpoch).filterMap
          (shownItem host.toPyText)).length ≤ traceCap →
        message.trace = settledTrace
          ((server.store.shownLog row.runId row.leaseEpoch).filterMap (shownItem host.toPyText))) ∧
      message.trace.length ≤ traceCap ∧
      ∀ later, (serverMachine host).Path Anything server later →
        toldMessages later.store.business.messages row.runId = [message] := by
  obtain ⟨message, fold, told, folded, content, trace⟩ :=
    (server_transcript_inv reachable).transcribed row stored terminal
  have alone := server_told_once reachable told
  obtain ⟨texts, items⟩ := fold_rows_shown folded
  refine ⟨message, alone, ?_, ?_, ?_, ?_⟩
  · rw [content, texts]
    rfl
  · intro few
    rw [trace, items]
    exact fold_trace_settled _ few
  · rw [trace, items]
    exact committed_trace_length _ _ (Nat.zero_le _)
  · intro later path
    rcases server_path_messages reachable path row.runId with same | ⟨absent, -⟩
    · rw [same, alone]
    · rw [alone] at absent
      cases absent

end

def todoRun : List (Server.Action Envelope) :=
  [⟨1, .createRun (plainDraft "run-1")⟩, ⟨2, .leaseRun laptop 30 "lease-1"⟩,
    ⟨3, .submitEvents laptop "run-1" "lease-1" 1
      [plainEvent laptop "run-1" 1 1 "event-started" "run.started" (.obj []),
        plainEvent laptop "run-1" 1 2 "event-first" "ui.text" (.obj [("md", .str "Two ")]),
        plainEvent laptop "run-1" 1 3 "event-todo" "ui.todo" (.obj [("text", .str "read")]),
        plainEvent laptop "run-1" 1 4 "event-later" "ui.todo" (.obj [("text", .str "write")]),
        plainEvent laptop "run-1" 1 5 "event-second" "ui.text" (.obj [("md", .str "tasks.")]),
        plainEvent laptop "run-1" 1 6 "event-completed" "run.completed" (.obj [])]⟩]

def todoServer : Server Envelope := emptyServer.serveAll plainHost todoRun

theorem todo_server_reachable : (serverMachine plainHost).Reachable Anything todoServer :=
  small_run_reachable todoRun (by decide +kernel)

theorem todo_run_ended : ∃ row ∈ todoServer.store.events,
    row.isTerminal = true ∧ row.runId = "run-1" ∧ row.leaseEpoch = 1 := by
  decide +kernel

theorem todo_run_reconstructed : ∃ message,
    toldMessages todoServer.store.business.messages "run-1" = [message] ∧
      message.content = "Two tasks." := by
  obtain ⟨row, stored, terminal, own, epoch⟩ := todo_run_ended
  obtain ⟨message, alone, content, -⟩ :=
    terminal_output_reconstructed plainHost todo_server_reachable stored terminal
  rw [own] at alone content
  rw [epoch] at content
  refine ⟨message, alone, content.trans ?_⟩
  decide +kernel

theorem todos_not_collapsed :
    (assistantMessage todoServer.store.business.messages "run-1").map (fun message =>
      message.trace.map traceKind) = some ["todo", "todo"] ∧
    ((List.replicate 10001 (Json.obj [("kind", .str "think")])).foldl appendTraceItem []).length <
      10001 := by
  constructor
  · decide +kernel
  · exact Nat.lt_succ_of_le (committed_trace_length _ _ (Nat.zero_le _))

end AgentMate
