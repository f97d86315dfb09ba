import AgentMate.DisplayEvents
import AgentMate.StoredTranscript
import Mathlib.Data.List.Forall2
import Mathlib.Data.List.Induction

/-! # The live view and the stored transcript -/

namespace AgentMate

open TransitionSystem Rollback List Option

variable {Hash : Type}

def isLasting (item : Json) : Bool := !isPlanOrTodoKind (traceKind item)

/-- The last plan of the rows, if there is one, is not passed over by the client. -/
def PlanKept (toNumber : Int → Int) (rows : List (EventRow Hash)) : Prop :=
  ∀ row, (rows.filter EventRow.isPlan).getLast? = some row → row.passedOver toNumber = false

def BelowCap (text : PyText) (rows : List (EventRow Hash)) : Prop :=
  ∀ seen fold, seen <+: rows → seen ≠ rows → foldEpoch text seen = .ok fold →
    fold.trace.length < traceCap

/-- The two transcripts of the same rows: the client's, and the Server's as the client
reads it. When the last plan counts on both sides the traces are the same. -/
structure SameTranscript (toNumber : Int → Int) (live : Transcript) (fold : OutputFold)
    (settled : Prop) : Prop where
  content : live.content = String.join fold.content
  lasting : List.Forall₂ SameItem (live.trace.filter isLasting)
    ((fold.trace.map (Json.parsed toNumber)).filter isLasting)
  trace : settled → List.Forall₂ SameItem live.trace (fold.trace.map (Json.parsed toNumber))

theorem same_item_kind {left right : Json} (same : SameItem left right) :
    traceKind left = traceKind right := by
  have kinds := same "kind"
  rw [Json.property, Json.property] at kinds
  rw [traceKind, traceKind]
  cases mine : left.get? "kind" with
  | none =>
    cases its : right.get? "kind" with
    | none => rfl
    | some other =>
      rw [mine, its] at kinds
      cases kinds
      rfl
  | some kind =>
    cases its : right.get? "kind" with
    | none =>
      rw [mine, its] at kinds
      cases kinds
      rfl
    | some other =>
      rw [mine, its] at kinds
      cases kinds
      rfl

theorem parsed_kind (toNumber : Int → Int) (item : Json) :
    traceKind (item.parsed toNumber) = traceKind item := by
  rw [traceKind, parsed_get, traceKind]
  cases item.get? "kind" with
  | none => rfl
  | some kind =>
    cases kind with
    | float value =>
      rw [map_some, Json.parsed]
      by_cases whole : value.value.den = 1
      · rw [if_pos whole]
      · rw [if_neg whole]
    | _ => rfl

theorem same_lasting {left right : List Json} (same : List.Forall₂ SameItem left right) :
    List.Forall₂ SameItem (left.filter isLasting) (right.filter isLasting) := by
  apply rel_filter ?_ same
  intro item other alike
  simp only [isLasting, same_item_kind alike]

theorem append_other {trace : List Json} {item : Json}
    (other : isPlanKind (traceKind item) = false) (below : trace.length < traceCap) :
    appendTraceItem trace item = trace ++ [item] := by
  simp only [appendTraceItem, other, Bool.false_eq_true, if_false]
  rw [if_pos below]

theorem append_plan {trace : List Json} {item : Json}
    (plan : isPlanKind (traceKind item) = true) (below : trace.length < traceCap) :
    appendTraceItem trace item = trace.filter isLasting ++ [item] := by
  have shorter : (trace.filter fun other => !isPlanOrTodoKind (traceKind other)).length <
      traceCap := lt_of_le_of_lt (length_filter_le _ _) below
  simp only [appendTraceItem, plan, if_true]
  rw [if_pos shorter]
  rfl

theorem parsed_lasting (toNumber : Int → Int) (trace : List Json) :
    (trace.map (Json.parsed toNumber)).filter isLasting =
      (trace.filter isLasting).map (Json.parsed toNumber) := by
  rw [List.filter_map]
  congr 1
  apply filter_congr
  intro item _
  rw [Function.comp_apply, isLasting, isLasting, parsed_kind]

theorem append_trace_length (trace : List Json) (item : Json) :
    (appendTraceItem trace item).length ≤ trace.length + 1 := by
  have appended (kept : List Json) (short : kept.length ≤ trace.length) :
      (if kept.length < traceCap then kept ++ [item] else kept).length ≤ trace.length + 1 := by
    split
    · rw [length_append, length_singleton]
      omega
    · omega
  apply appended
  split
  · exact length_filter_le _ _
  · exact le_rfl

variable {text : PyText} {rows : List (EventRow Hash)} {fold : OutputFold} {toNumber : Int → Int}
  {row : EventRow Hash}

theorem fold_output_trace_length {fold next : OutputFold} {eventType : String} {payload : Json}
    (done : foldOutput text fold eventType payload = .ok next) :
    next.trace.length ≤ fold.trace.length + 1 := by
  unfold foldOutput at done
  split at done
  · cases done
    exact Nat.le_succ _
  · split at done
    · obtain ⟨prompt, -, done⟩ := bind_ok done
      obtain ⟨completion, -, done⟩ := bind_ok done
      cases done
      exact Nat.le_succ _
    · split at done
      · cases done
        exact Nat.le_succ _
      · obtain ⟨item, -, done⟩ := bind_ok done
        cases item with
        | none =>
          cases done
          exact Nat.le_succ _
        | some item =>
          cases done
          exact append_trace_length fold.trace item

theorem fold_trace_length (folded : foldEpoch text rows = .ok fold) :
    fold.trace.length ≤ rows.length := by
  induction rows using List.reverseRecOn generalizing fold with
  | nil =>
    cases folded
    exact le_rfl
  | append_singleton rows row ih =>
    rw [fold_epoch_append] at folded
    obtain ⟨before, foldedBefore, foldedRow⟩ := bind_ok folded
    have short := ih foldedBefore
    have step := fold_output_trace_length foldedRow
    rw [length_append, length_singleton]
    omega

theorem below_cap_of_length (few : rows.length ≤ traceCap) : BelowCap text rows := by
  intro seen fold before shorter folded
  have bound := fold_trace_length folded
  have longer := before.length_le
  have different : seen.length ≠ rows.length := fun same => shorter (before.eq_of_length same)
  omega

theorem plan_kept_other (other : row.isPlan = false) (kept : PlanKept toNumber (rows ++ [row])) :
    PlanKept toNumber rows := by
  intro last isLast
  apply kept last
  rw [filter_append]
  simp [other, isLast]

theorem plan_kept_last (plan : row.isPlan = true) (kept : PlanKept toNumber (rows ++ [row])) :
    row.passedOver toNumber = false := by
  apply kept row
  rw [filter_append]
  simp [plan]

theorem below_cap_shorter (below : BelowCap text (rows ++ [row])) : BelowCap text rows := by
  intro seen fold before shorter folded
  apply below seen fold (before.trans (prefix_append rows [row])) ?_ folded
  rintro rfl
  have longer := before.length_le
  simp at longer

theorem row_same_transcript {live : Transcript} {fold next : OutputFold} {settled later : Prop}
    (same : SameTranscript toNumber live fold settled) (agreement : Agreement toNumber text row)
    (below : fold.trace.length < traceCap) (other : row.isPlan = false → later → settled)
    (plan : row.isPlan = true → later → row.passedOver toNumber = false)
    (folded : foldOutput text fold row.eventType row.payload = .ok next) :
    SameTranscript toNumber (live.display toNumber row) next later := by
  cases agreement with
  | silent noPlan shown kept =>
    obtain ⟨sameContent, sameTrace⟩ := kept fold next folded
    rw [shown]
    refine ⟨?_, ?_, ?_⟩
    · rw [sameContent]
      exact same.content
    · rw [sameTrace]
      exact same.lasting
    · rw [sameTrace]
      exact fun settles => same.trace (other noPlan settles)
  | prose md noPlan shown kept =>
    rw [kept fold] at folded
    cases folded
    rw [shown]
    refine ⟨?_, same.lasting, fun settles => same.trace (other noPlan settles)⟩
    rw [String.join_append, ← same.content]
    rfl
  | item item stored noPlan kind alike shown kept =>
    rw [kept fold, append_other kind below] at folded
    cases folded
    rw [shown]
    have last : List.Forall₂ SameItem [item] [stored.parsed toNumber] :=
      .cons alike .nil
    refine ⟨same.content, ?_, fun settles => ?_⟩
    · rw [map_append, filter_append, filter_append]
      exact rel_append same.lasting (same_lasting last)
    · rw [map_append]
      exact rel_append (same.trace (other noPlan settles)) last
  | plan version items projectId kind stored isPlan storedKind passed alike shown kept =>
    rw [kept fold, append_plan storedKind below] at folded
    cases folded
    rw [shown]
    have last : List.Forall₂ SameItem [runPlanItem kind version items projectId]
        [stored.parsed toNumber] := .cons alike .nil
    have storedGone : [stored.parsed toNumber].filter isLasting = [] := by
      simp [isLasting, parsed_kind, isPlanOrTodoKind, storedKind]
    have liveGone : [runPlanItem kind version items projectId].filter isLasting = [] := by
      simp [isLasting, same_item_kind alike, parsed_kind, isPlanOrTodoKind, storedKind]
    have lastingTwice (trace : List Json) :
        (trace.filter isLasting).filter isLasting = trace.filter isLasting := by
      rw [List.filter_filter]
      simp
    refine ⟨same.content, ?_, fun settles => ?_⟩
    · rw [map_append, filter_append, ← parsed_lasting, lastingTwice,
        map_singleton, storedGone, append_nil]
      unfold withRunPlan
      split
      · exact same.lasting
      · rw [filter_append, liveGone, append_nil]
        change List.Forall₂ SameItem ((live.trace.filter isLasting).filter isLasting) _
        rw [lastingTwice]
        exact same.lasting
    · have counts := plan isPlan settles
      rw [passed] at counts
      rw [withRunPlan, if_neg (by simp [counts]), map_append, ← parsed_lasting]
      exact rel_append same.lasting last

theorem rows_same_transcript (typed : ∀ row ∈ rows, row.wellTyped = true ∧ row.integral = true)
    (below : BelowCap text rows) (folded : foldEpoch text rows = .ok fold) :
    SameTranscript toNumber (liveTranscript toNumber rows) fold (PlanKept toNumber rows) := by
  induction rows using List.reverseRecOn generalizing fold with
  | nil =>
    cases folded
    exact ⟨rfl, .nil, fun _ => .nil⟩
  | append_singleton rows row ih =>
    rw [fold_epoch_append] at folded
    obtain ⟨before, foldedBefore, foldedRow⟩ := bind_ok folded
    have same := ih (fun other mem => typed other (mem_append_left _ mem))
      (below_cap_shorter below) foldedBefore
    obtain ⟨rowTyped, integral⟩ :=
      typed row (mem_append_right _ (mem_singleton.mpr rfl))
    have short := below rows before (prefix_append rows [row]) (by simp) foldedBefore
    rw [live_transcript_concat]
    exact row_same_transcript same (row_agreement rowTyped integral) short
      plan_kept_other plan_kept_last foldedRow

/-- No display event is stored after the first terminal event of the epoch. -/
def EndsQuietly (store : Store Hash) (runId : String) (epoch : Nat) : Prop :=
  ∀ row ∈ (store.epochLog runId epoch).dropWhile (fun row => !row.isTerminal),
    afterPrefix? "ui." row.eventType = none

theorem bare_rows_silent (toNumber : Int → Int)
    (bare : ∀ row ∈ rows, afterPrefix? "ui." row.eventType = none) (transcript : Transcript) :
    rows.foldl (Transcript.display toNumber) transcript = transcript := by
  induction rows with
  | nil => rfl
  | cons row rest ih =>
    have first : transcript.display toNumber row = transcript := by
      rw [Transcript.display, clientEvent, bare row mem_cons_self]
      simp only
      split
      · exact ask_user_silent transcript _
      · rfl
    rw [foldl_cons, first]
    exact ih fun other mem => bare other (mem_cons_of_mem row mem)

theorem quiet_end_shown {store : Store Hash} {runId : String} {epoch : Nat}
    (quiet : EndsQuietly store runId epoch) :
    liveTranscript toNumber (store.epochLog runId epoch) =
      liveTranscript toNumber (store.shownLog runId epoch) := by
  rw [Store.shownLog, liveTranscript, liveTranscript]
  nth_rewrite 1 [← takeWhile_append_dropWhile (p := fun row : EventRow Hash => !row.isTerminal)
    (l := store.epochLog runId epoch)]
  rw [foldl_append]
  exact bare_rows_silent toNumber quiet _

/-- What the client shows of the Run is its stored assistant message. -/
def ShowsStored (toNumber : Int → Int) (runId : String) (view : LiveView Hash) : Prop :=
  ∃ message, assistantMessage view.server.store.business.messages runId = some message ∧
    view.message.content = message.content ∧
    List.Forall₂ SameItem view.message.trace (message.trace.map (Json.parsed toNumber))

/-- For a Run that a device ended, on payloads of `Domain`: a client that has left the
loop shows the stored message, however its polls were interleaved with the Server. -/
def LiveEqualsStored [DecidableEq Hash] (host : Host Hash)
    (Domain : (Int → Int) → List (EventRow Hash) → Prop) : Prop :=
  ∀ toNumber runId pageLimit view read run, pageLimit ≤ 1000 →
    (LiveView.machine host toNumber runId pageLimit).Reachable Anything view →
    view.ended? = some read → view.server.store.run? runId = some run →
    (∃ row ∈ view.server.store.runLog runId, row.isTerminal = true) →
    (∀ row ∈ view.server.store.epochLog runId run.leaseEpoch, row.wellTyped = true) →
    BelowCap host.toPyText (view.server.store.shownLog runId run.leaseEpoch) →
    Domain toNumber (view.server.store.epochLog runId run.leaseEpoch) →
    ShowsStored toNumber runId view

theorem live_view_equals_transcript [DecidableEq Hash] (host : Host Hash) (toNumber : Int → Int)
    {runId : String} {pageLimit : Nat} (limit : pageLimit ≤ 1000) {view : LiveView Hash}
    {read run : Run}
    (reachable : (LiveView.machine host toNumber runId pageLimit).Reachable Anything view)
    (left : view.ended? = some read) (found : view.server.store.run? runId = some run)
    (ended : ∃ row ∈ view.server.store.runLog runId, row.isTerminal = true)
    (typed : ∀ row ∈ view.server.store.shownLog runId run.leaseEpoch,
      row.wellTyped = true ∧ row.integral = true)
    (kept : PlanKept toNumber (view.server.store.shownLog runId run.leaseEpoch))
    (quiet : EndsQuietly view.server.store runId run.leaseEpoch)
    (below : BelowCap host.toPyText (view.server.store.shownLog runId run.leaseEpoch)) :
    ShowsStored toNumber runId view := by
  have shown := left_view_transcript limit reachable left found
  rw [quiet_end_shown quiet] at shown
  obtain ⟨message, fold, stored, folded, content, trace⟩ :=
    ended_run_transcribed (view_inv limit reachable).reachable found ended
  have same : SameTranscript toNumber _ fold _ := rows_same_transcript typed below folded
  rw [← shown] at same
  refine ⟨message, stored, ?_, ?_⟩
  · rw [content]
    exact same.content
  · rw [trace]
    exact same.trace kept

theorem same_items_property {live stored : List Json}
    (same : List.Forall₂ SameItem live stored) (key : String) :
    live.map (Json.property key) = stored.map (Json.property key) := by
  induction same with
  | nil => rfl
  | cons alike _ ih => rw [map_cons, map_cons, alike key, ih]

def idleView (server : Server Envelope) : LiveView Envelope :=
  ⟨server, .idle, Follow.start, LiveView.blankMessage "bot" none⟩

theorem idle_view_reachable (actions : List (Server.Action Envelope))
    (ordered : (0 :: actions.map Server.Action.now).Pairwise (· ≤ ·)) :
    (LiveView.machine plainHost id "run-1" 1000).Reachable Anything
      (idleView (emptyServer.serveAll plainHost actions)) := by
  refine ⟨idleView emptyServer, ⟨empty_server_initial, rfl, rfl, "bot", none, rfl⟩, ?_⟩
  exact LiveView.serve_path (serve_all_path plainHost ordered)

def laptopPart : List (Server.Action Envelope) :=
  [⟨1, .createRun (plainDraft "run-1")⟩, ⟨2, .leaseRun laptop 30 "lease-1"⟩,
    ⟨3, .submitEvents laptop "run-1" "lease-1" 1
      [plainEvent laptop "run-1" 1 1 "event-started" "run.started" (.obj []),
        plainEvent laptop "run-1" 1 2 "event-thought" "ui.think"
          (.obj [("text", .str "a first try")])]⟩]

def desktopPart : List (Server.Action Envelope) :=
  [⟨40, .leaseRun desktop 30 "lease-2"⟩, ⟨41, .submitEvents desktop "run-1" "lease-2" 2
      [plainEvent desktop "run-1" 2 1 "event-restarted" "run.started" (.obj []),
        plainEvent desktop "run-1" 2 2 "event-todo" "ui.todo" (.obj [("text", .str "look")]),
        plainEvent desktop "run-1" 2 3 "event-plan" "ui.plan_snapshot"
          (.obj [("version", .int 1), ("items", .arr [])]),
        plainEvent desktop "run-1" 2 4 "event-text" "ui.text" (.obj [("md", .str "Done.")]),
        plainEvent desktop "run-1" 2 5 "event-completed" "run.completed" (.obj [])]⟩]

def recoveredView : LiveView Envelope :=
  let first := (idleView (emptyServer.serveAll plainHost laptopPart)).polled id "run-1" 1000
  { first with server := first.server.serveAll plainHost desktopPart }.polled id "run-1" 1000

theorem recovered_view_reachable :
    (LiveView.machine plainHost id "run-1" 1000).Reachable Anything recoveredView := by
  let first := (idleView (emptyServer.serveAll plainHost laptopPart)).polled id "run-1" 1000
  have watching : (LiveView.machine plainHost id "run-1" 1000).Reachable Anything first :=
    reachable_path (idle_view_reachable laptopPart (by decide +kernel)) (LiveView.polled_path rfl)
  have served : (serverMachine plainHost).Path Anything first.server
      (first.server.serveAll plainHost desktopPart) :=
    serve_all_path plainHost (by decide +kernel)
  have later := reachable_path watching (LiveView.serve_path served)
  exact reachable_path later (LiveView.polled_path (by decide +kernel))

theorem recovered_view_transcript : ShowsStored id "run-1" recoveredView := by
  obtain ⟨run, found⟩ : ∃ run, recoveredView.server.store.run? "run-1" = some run :=
    isSome_iff_exists.mp (by decide +kernel)
  obtain ⟨read, left⟩ : ∃ read, recoveredView.ended? = some read :=
    isSome_iff_exists.mp (by decide +kernel)
  have epoch : run.leaseEpoch = 2 := by
    have read : (recoveredView.server.store.run? "run-1").map (fun run => run.leaseEpoch) =
        some 2 := by decide +kernel
    rw [found] at read
    exact Option.some.inj read
  have ended : (recoveredView.server.store.runLog "run-1").any EventRow.isTerminal = true := by
    decide +kernel
  have typed : (recoveredView.server.store.shownLog "run-1" 2).all
      (fun row => row.wellTyped && row.integral) = true := by decide +kernel
  have kept : (((recoveredView.server.store.shownLog "run-1" 2).filter EventRow.isPlan).getLast?).all
      (fun row => !row.passedOver id) = true := by decide +kernel
  have quiet : ((recoveredView.server.store.epochLog "run-1" 2).dropWhile
      (fun row => !row.isTerminal)).all
      (fun row => (afterPrefix? "ui." row.eventType).isNone) = true := by decide +kernel
  apply live_view_equals_transcript plainHost id (by decide) recovered_view_reachable left found
  · simpa using ended
  · rw [epoch]
    simpa using typed
  · rw [epoch]
    intro row last
    rw [last] at kept
    simpa using kept
  · rw [epoch]
    simpa [EndsQuietly] using quiet
  · rw [epoch]
    exact below_cap_of_length (by decide +kernel)

def reportedRun (eventType : String) (payload : Json) : List (Server.Action Envelope) :=
  [⟨1, .createRun (plainDraft "run-1")⟩, ⟨2, .leaseRun laptop 30 "lease-1"⟩,
    ⟨3, .submitEvents laptop "run-1" "lease-1" 1
      [plainEvent laptop "run-1" 1 1 "event-started" "run.started" (.obj []),
        plainEvent laptop "run-1" 1 2 "event-reported" eventType payload,
        plainEvent laptop "run-1" 1 3 "event-completed" "run.completed" (.obj [])]⟩]

def reportedView (eventType : String) (payload : Json) : LiveView Envelope :=
  (idleView (emptyServer.serveAll plainHost (reportedRun eventType payload))).polled id "run-1" 1000

theorem reported_view_shows {Domain : (Int → Int) → List (EventRow Envelope) → Prop}
    (equal : LiveEqualsStored plainHost Domain) (eventType : String) (payload : Json)
    (left : (reportedView eventType payload).ended?.isSome = true)
    (epoch : ((reportedView eventType payload).server.store.run? "run-1").map
      (fun run => run.leaseEpoch) = some 1)
    (ended : ((reportedView eventType payload).server.store.runLog "run-1").any
      EventRow.isTerminal = true)
    (typed : ((reportedView eventType payload).server.store.epochLog "run-1" 1).all
      EventRow.wellTyped = true)
    (few : ((reportedView eventType payload).server.store.shownLog "run-1" 1).length ≤ traceCap)
    (domain : Domain id ((reportedView eventType payload).server.store.epochLog "run-1" 1)) :
    ShowsStored id "run-1" (reportedView eventType payload) := by
  obtain ⟨read, left⟩ := isSome_iff_exists.mp left
  obtain ⟨run, found, sameEpoch⟩ := map_eq_some_iff.mp epoch
  have ordered : (0 :: (reportedRun eventType payload).map Server.Action.now).Pairwise (· ≤ ·) := by
    change ([0, 1, 2, 3] : List Time).Pairwise (· ≤ ·)
    decide +kernel
  have reachable : (LiveView.machine plainHost id "run-1" 1000).Reachable Anything
      (reportedView eventType payload) :=
    reachable_path (idle_view_reachable (reportedRun eventType payload) ordered)
      (LiveView.polled_path rfl)
  apply equal id "run-1" 1000 _ read run (by decide) reachable left found
  · simpa using ended
  · rw [sameEpoch]
    simpa using typed
  · rw [sameEpoch]
    exact below_cap_of_length few
  · rw [sameEpoch]
    exact domain

theorem transcripts_differ :
    ¬LiveEqualsStored plainHost (fun _ rows => ∀ row ∈ rows, row.integral = true) ∧
      ¬LiveEqualsStored plainHost (fun toNumber rows => PlanKept toNumber rows) := by
  constructor
  · intro equal
    let payload : Json := .obj [("version", .int 0), ("items", .arr []), ("project_id", .null)]
    have integral : ((reportedView "ui.plan_snapshot" payload).server.store.epochLog "run-1" 1).all
        EventRow.integral = true := by decide +kernel
    obtain ⟨message, stored, -, same⟩ := reported_view_shows equal "ui.plan_snapshot" payload
      (by decide +kernel) (by decide +kernel) (by decide +kernel) (by decide +kernel)
      (by decide +kernel) (by simpa using integral)
    have shown : (reportedView "ui.plan_snapshot" payload).message.trace.length = 0 := by
      decide +kernel
    have kept : (assistantMessage (reportedView "ui.plan_snapshot" payload).server.store.business.messages
        "run-1").map (fun message => message.trace.length) = some 1 := by decide +kernel
    rw [stored, map_some, Option.some.injEq] at kept
    have lengths := same.length_eq
    rw [shown, length_map, kept] at lengths
    cases lengths
  · intro equal
    let payload : Json := .obj [("op", .str "edit"), ("file", .str "a.txt"),
      ("add", .float (.number (3 / 2))), ("del", .int 0)]
    have noPlan : (((reportedView "ui.diff" payload).server.store.epochLog "run-1" 1).filter
        EventRow.isPlan).isEmpty = true := by decide +kernel
    obtain ⟨message, stored, -, same⟩ := reported_view_shows equal "ui.diff" payload
      (by decide +kernel) (by decide +kernel) (by decide +kernel) (by decide +kernel)
      (by decide +kernel) (by
        intro row last
        rw [List.isEmpty_iff.mp noPlan] at last
        cases last)
    have shown : ((reportedView "ui.diff" payload).message.trace.map (Json.property "add")).map
        Json.isIntegral = [false] := by decide +kernel
    have kept : (assistantMessage (reportedView "ui.diff" payload).server.store.business.messages
        "run-1").map (fun message => ((message.trace.map (Json.parsed id)).map
          (Json.property "add")).map Json.isIntegral) = some [true] := by decide +kernel
    rw [stored, map_some, Option.some.injEq, ← same_items_property same "add", shown] at kept
    cases kept

end AgentMate
