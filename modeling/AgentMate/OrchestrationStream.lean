import AgentMate.RunStore
import AgentMate.SseFrames

/-!
# The event stream of an orchestration

`stream_events` of `routers/orchestrations.py` polls the row of an orchestration and writes its
snapshots as SSE frames. `streamOrchestration` of `lib/sse.ts` gets the body in pieces and keeps
the end of a piece until its frame is whole. A piece is what the decoder makes of the bytes of one
read; `JSON.parse` and the fields read of its result are arguments.
-/

namespace AgentMate.OrchestrationStream

open SseFrames List Option

/-- What one round of the loop in `stream_events` finds; `late` is fifteen seconds since the last
event. -/
structure Poll where
  connected : Bool
  version : Option (Time × String)
  item : Option (List (String × Json))
  late : Bool

inductive Sent where
  | snapshot (item : List (String × Json))
  | keepAlive
  | failed (message : String)
  | done

/-- `TERMINAL`. -/
def terminal : List String := ["completed", "failed", "cancelled"]

/-- `event_stream` with its `last_updated`. -/
def eventStream (lastUpdated : Time) : List Poll → List Sent
  | [] => []
  | poll :: rest =>
    if !poll.connected then []
    else
      match poll.version with
      | none => [.failed "orchestration not found"]
      | some (updated, status) =>
        if updated ≠ lastUpdated then
          match poll.item with
          | none => [.failed "orchestration not found"]
          | some item =>
            .snapshot item :: if status ∈ terminal then [.done] else eventStream updated rest
        else if poll.late then .keepAlive :: eventStream lastUpdated rest
        else eventStream lastUpdated rest

def snapshotData (item : List (String × Json)) : List (String × Json) :=
  [("orchestration", .obj item)]

def errorData (message : String) : List (String × Json) := [("message", .str message)]

def Sent.text (floats : FloatText) : Sent → String
  | .snapshot item => sse floats "orchestration" (some (snapshotData item))
  | .keepAlive => ": keep-alive\n\n"
  | .failed message => sse floats "error" (some (errorData message))
  | .done => sse floats "done" (some [])

/-- The characters that `trim()` of JavaScript removes. -/
def isBlank (char : Char) : Bool :=
  let code := char.toNat
  (PlainText.isWhitespace char && !(28 ≤ code && code ≤ 31) && code != 0x85) || code == 0xfeff

def trim (chars : List Char) : List Char :=
  ((chars.dropWhile isBlank).reverse.dropWhile isBlank).reverse

structure Script (Data Item : Type) where
  parse : List Char → Option Data
  orchestration : Data → Option Item
  message : Data → Option String

/-- What the caller of `streamOrchestration` has seen in the end. -/
structure Ending (Item : Type) where
  shown : List Item
  error : Option String

structure Client (Item : Type) where
  shown : List Item
  completed : Bool

def readLine (read : FrameLines) (line : List Char) : FrameLines :=
  if eventMark.isPrefixOf line then { read with eventType := String.ofList (trim (line.drop 6)) }
  else if dataMark.isPrefixOf line then
    { read with payloadLines := read.payloadLines ++ [trim (line.drop 5)] }
  else read

/-- The loop over `buffer.indexOf('\n\n')`: the frames it cuts off, and the buffer it leaves. -/
def cutFrames (buffer : List Char) : List (List Char) × List Char :=
  ((splitFrames buffer []).dropLast, (splitFrames buffer []).getLastD [])

section

variable {Data Item : Type} (script : Script Data Item)

def parseFrame (frame : List Char) : Option (String × Data) :=
  let read := (frame.splitOn '\n').foldl readLine ⟨"message", []⟩
  if read.payloadLines = [] then none
  else (script.parse (joinLines read.payloadLines)).map fun data => (read.eventType, data)

/-- One frame of the loop; an error keeps what was shown before it. -/
def takeFrame (client : Client Item) (frame : List Char) : Except (Ending Item) (Client Item) :=
  match parseFrame script frame with
  | none => .ok client
  | some (event, data) =>
    if event = "orchestration" then
      .ok { client with shown := client.shown ++ (script.orchestration data).toList }
    else if event = "error" then
      .error ⟨client.shown, some ((script.message data).getD "专家团状态流错误")⟩
    else if event = "done" then .ok { client with completed := true }
    else .ok client

def readPiece (state : List Char × Client Item) (piece : List Char) :
    Except (Ending Item) (List Char × Client Item) :=
  let (frames, buffer) := cutFrames (state.1 ++ piece)
  (frames.foldlM (takeFrame script) state.2).map fun client => (buffer, client)

def takeRest (client : Client Item) (buffer : List Char) : Client Item :=
  if trim buffer = [] then client
  else
    match parseFrame script buffer with
    | none => client
    | some (event, data) =>
      if event = "orchestration" then
        { client with shown := client.shown ++ (script.orchestration data).toList }
      else if event = "done" then { client with completed := true }
      else client

def streamOrchestration (aborted : Bool) (pieces : List (List Char)) : Ending Item :=
  match pieces.foldlM (readPiece script) ([], ⟨[], false⟩) with
  | .error ending => ending
  | .ok (buffer, client) =>
    let last := takeRest script client buffer
    ⟨last.shown, if !last.completed && !aborted then some "专家团状态流意外断开" else none⟩

end

def feed (state : List (List Char) × List Char) (char : Char) : List (List Char) × List Char :=
  if char = '\n' ∧ state.2.getLast? = some '\n' then (state.1 ++ [state.2.dropLast], [])
  else (state.1, state.2 ++ [char])

theorem feed_frames (text : List Char) (frames : List (List Char)) (buffer : List Char) :
    text.foldl feed (frames, buffer) =
      (frames ++ (text.foldl feed ([], buffer)).1, (text.foldl feed ([], buffer)).2) := by
  induction text generalizing frames buffer with
  | nil => simp
  | cons char text ih =>
    rw [foldl_cons, foldl_cons]
    by_cases cut : char = '\n' ∧ buffer.getLast? = some '\n'
    · rw [feed, if_pos cut, feed, if_pos cut, ih, ih ([] ++ [buffer.dropLast]) []]
      simp
    · rw [feed, if_neg cut, feed, if_neg cut]
      exact ih frames (buffer ++ [char])

theorem split_frames_feed (text buffer : List Char)
    (apart : ¬(text.head? = some '\n' ∧ buffer.getLast? = some '\n')) :
    splitFrames text buffer =
      (text.foldl feed ([], buffer)).1 ++ [(text.foldl feed ([], buffer)).2] := by
  fun_induction splitFrames text buffer with
  | case1 rest buffer ih =>
    have open_ : buffer.getLast? ≠ some '\n' := fun same => apart ⟨rfl, same⟩
    have first : feed ([], buffer) '\n' = ([], buffer ++ ['\n']) := if_neg fun cut => open_ cut.2
    have second : feed ([], buffer ++ ['\n']) '\n' = ([buffer], []) := by
      rw [feed, if_pos ⟨rfl, getLast?_concat⟩, dropLast_concat]
      rfl
    rw [foldl_cons, foldl_cons, first, second, feed_frames, ih (by simp)]
    rfl
  | case2 char rest buffer other ih =>
    have kept : feed ([], buffer) char = ([], buffer ++ [char]) := by
      apply if_neg
      rintro ⟨rfl, same⟩
      exact apart ⟨rfl, same⟩
    rw [foldl_cons, kept]
    apply ih
    rintro ⟨head, last⟩
    rw [getLast?_concat, Option.some.injEq] at last
    cases rest with
    | nil => cases head
    | cons next rest =>
      cases head
      exact other rest last rfl
  | case3 => rfl

theorem cut_frames_feed (text : List Char) : cutFrames text = text.foldl feed ([], []) := by
  have split := split_frames_feed text [] (by simp)
  rw [cutFrames, split, dropLast_concat]
  simp

/-- A buffer is settled when no frame can be cut off it. -/
theorem feed_settled (text : List Char) :
    (text.foldl feed ([], [])).2.foldl feed ([], []) = ([], (text.foldl feed ([], [])).2) := by
  induction text using List.reverseRecOn with
  | nil => rfl
  | append_singleton text char ih =>
    rw [foldl_concat]
    generalize text.foldl feed ([], []) = state at ih
    by_cases cut : char = '\n' ∧ state.2.getLast? = some '\n'
    · rw [feed, if_pos cut]
      rfl
    · rw [feed, if_neg cut, foldl_concat, ih]
      exact if_neg cut

section

variable {Data Item : Type} {script : Script Data Item}

variable (script) in
theorem read_pieces (pieces : List (List Char)) (before : List Char) (client : Client Item) :
    pieces.foldlM (readPiece script) ((cutFrames before).2, client) =
      (((pieces.flatten.foldl feed ([], (cutFrames before).2)).1).foldlM (takeFrame script)
        client).map fun client => ((cutFrames (before ++ pieces.flatten)).2, client) := by
  induction pieces generalizing before client with
  | nil =>
    rw [flatten_nil, append_nil]
    rfl
  | cons piece pieces ih =>
    have settled := feed_settled before
    have whole : cutFrames ((cutFrames before).2 ++ piece) =
        piece.foldl feed ([], (cutFrames before).2) := by
      rw [cut_frames_feed, foldl_append, cut_frames_feed, settled]
    have left : (cutFrames (before ++ piece)).2 = (cutFrames ((cutFrames before).2 ++ piece)).2 := by
      rw [whole, cut_frames_feed (before ++ piece), foldl_append, ← cut_frames_feed,
        feed_frames piece (cutFrames before).1]
    rw [foldlM_cons, readPiece]
    dsimp only
    rw [flatten_cons, foldl_append, ← append_assoc, ← whole,
      feed_frames pieces.flatten, foldlM_append]
    cases taken : (cutFrames ((cutFrames before).2 ++ piece)).1.foldlM (takeFrame script) client with
    | error ending => rfl
    | ok client =>
      have rest := ih (before ++ piece) client
      rw [left] at rest
      exact rest

end

section

variable {floats : FloatText}

def Sent.frame (floats : FloatText) : Sent → List Char
  | .snapshot item => frameText floats ⟨"orchestration", snapshotData item⟩
  | .keepAlive => ": keep-alive".toList
  | .failed message => frameText floats ⟨"error", errorData message⟩
  | .done => frameText floats ⟨"done", []⟩

def wire (floats : FloatText) (sent : List Sent) : List Char :=
  sent.flatMap fun item => (item.text floats).toList

def names : List String := ["orchestration", "error", "done"]

theorem name_trimmed : ∀ name ∈ names,
    trim (' ' :: name.toList) = name.toList ∧ '\n' ∉ eventLine ⟨name, []⟩ := by
  decide +kernel

theorem split_sse (lawful : floats.Lawful) {name : String} (named : name ∈ names)
    (data : List (String × Json)) (rest : List Char) :
    splitFrames ((sse floats name (some data)).toList ++ rest) [] =
      frameText floats ⟨name, data⟩ :: splitFrames rest [] := by
  have cut := split_frames_event (name_trimmed name named).2
    (data_line_whole lawful data (by decide)) (cons_ne_nil _ _) rest
  rw [sse_text ⟨name, data⟩, append_assoc]
  exact cut

theorem split_wire (lawful : floats.Lawful) (sent : List Sent) :
    splitFrames (wire floats sent) [] = sent.map (Sent.frame floats) ++ [[]] := by
  induction sent with
  | nil => rfl
  | cons item sent ih =>
    rw [map_cons, cons_append, ← ih]
    cases item with
    | snapshot item => exact split_sse lawful (by decide) (snapshotData item) (wire floats sent)
    | failed message => exact split_sse lawful (by decide) (errorData message) (wire floats sent)
    | done => exact split_sse lawful (by decide) [] (wire floats sent)
    | keepAlive =>
      have text : ": keep-alive\n\n".toList = ": keep-alive".toList ++ ['\n', '\n'] := by
        decide +kernel
      have cut := split_frames_line (show '\n' ∉ ": keep-alive".toList by decide +kernel)
        ('\n' :: '\n' :: wire floats sent) []
      rw [splitFrames] at cut
      rw [wire, flatMap_cons, Sent.text, text, append_assoc]
      exact cut

theorem trim_solid {first last : Char} (middle : List Char) (front : isBlank first = false)
    (back : isBlank last = false) :
    trim (' ' :: first :: (middle ++ [last])) = first :: (middle ++ [last]) := by
  have blank : isBlank ' ' = true := rfl
  rw [trim, dropWhile_cons_of_pos blank, dropWhile_cons_of_neg (by simp [front]),
    ← cons_append, reverse_concat, dropWhile_cons_of_neg (by simp [back]),
    ← reverse_concat, reverse_reverse]

variable {Data Item : Type} {script : Script Data Item}

theorem parse_frame (lawful : floats.Lawful) (name : String) (named : name ∈ names)
    (data : List (String × Json)) :
    parseFrame script (frameText floats ⟨name, data⟩) =
      (script.parse (renderSpaced floats (.obj data))).map fun value => (name, value) := by
  obtain ⟨trimmed, whole⟩ := name_trimmed name named
  have lines : (frameText floats ⟨name, data⟩).splitOn '\n' =
      [eventLine ⟨name, data⟩, dataLine (renderSpaced floats (.obj data))] := by
    have apart : '\n' ∉ eventLine ⟨name, data⟩ := whole
    rw [frameText, splitOn_append_cons_self_of_not_mem apart,
      splitOn_eq_singleton (data_line_whole lawful data (by decide))]
  have event : readLine ⟨"message", []⟩ (eventLine ⟨name, data⟩) =
      ⟨String.ofList (trim (' ' :: name.toList)), []⟩ := rfl
  have payload (read : FrameLines) (text : List Char) : readLine read (dataLine text) =
      { read with payloadLines := read.payloadLines ++ [trim (' ' :: text)] } := rfl
  obtain ⟨middle, closed⟩ := fields_closed floats data
  have solid : trim (' ' :: renderSpaced floats (.obj data)) = renderSpaced floats (.obj data) := by
    rw [data_head, closed]
    exact trim_solid middle rfl rfl
  rw [parseFrame, lines, foldl_cons, foldl_cons, event, payload, trimmed, solid,
    String.ofList_toList]
  rfl

variable (script floats) in
def Sent.shows : Sent → Option Item
  | .snapshot item =>
    (script.parse (renderSpaced floats (.obj (snapshotData item)))).bind script.orchestration
  | _ => none

variable (script floats) in
/-- What the caller is told of a body that ends with this message. -/
def ending (aborted : Bool) : Option Sent → Option String
  | some .done => none
  | some (.failed message) =>
    some (((script.parse (renderSpaced floats (.obj (errorData message)))).bind
      script.message).getD "专家团状态流错误")
  | _ => if aborted then none else some "专家团状态流意外断开"

def Sent.IsOpen : Sent → Prop
  | .snapshot _ | .keepAlive => True
  | .failed _ | .done => False

/-- Snapshots and comments, then at most one message that ends the stream. -/
def Shaped (sent : List Sent) : Prop :=
  ∃ front last, sent = front ++ last ∧ (∀ item ∈ front, item.IsOpen) ∧
    (last = [] ∨ ∃ item, last = [item] ∧ ¬item.IsOpen)

theorem shaped_cons (item : Sent) (isOpen : item.IsOpen) {rest : List Sent} (shaped : Shaped rest) :
    Shaped (item :: rest) := by
  obtain ⟨front, last, rfl, opens, closed⟩ := shaped
  exact ⟨item :: front, last, rfl, forall_mem_cons.mpr ⟨isOpen, opens⟩, closed⟩

theorem event_stream_shaped (polls : List Poll) (lastUpdated : Time) :
    Shaped (eventStream lastUpdated polls) := by
  have empty : Shaped [] := ⟨[], [], rfl, nofun, .inl rfl⟩
  have ended (item : Sent) (closed : ¬item.IsOpen) : Shaped [item] :=
    ⟨[], [item], rfl, nofun, .inr ⟨item, rfl, closed⟩⟩
  induction polls generalizing lastUpdated with
  | nil => exact empty
  | cons poll polls ih =>
    rw [eventStream]
    split
    · exact empty
    · split
      · exact ended _ id
      · split
        · split
          · exact ended _ id
          · apply shaped_cons (.snapshot _) trivial
            split
            · exact ended .done id
            · exact ih _
        · split
          · exact shaped_cons .keepAlive trivial (ih _)
          · exact ih _

theorem take_open (lawful : floats.Lawful) (front : List Sent)
    (opens : ∀ sent ∈ front, sent.IsOpen) (client : Client Item) :
    (front.map (Sent.frame floats)).foldlM (takeFrame script) client =
      .ok { client with shown := client.shown ++ front.filterMap (Sent.shows floats script) } := by
  induction front generalizing client with
  | nil =>
    rw [filterMap_nil, append_nil]
    rfl
  | cons sent front ih =>
    obtain ⟨here, later⟩ := forall_mem_cons.mp opens
    have taken : takeFrame script client (sent.frame floats) =
        .ok { client with shown := client.shown ++ (sent.shows floats script).toList } := by
      cases sent with
      | snapshot item =>
        have framed : Sent.frame floats (.snapshot item) =
            frameText floats ⟨"orchestration", snapshotData item⟩ := rfl
        rw [takeFrame, framed, parse_frame lawful "orchestration" (by decide), Sent.shows]
        cases script.parse (renderSpaced floats (.obj (snapshotData item))) with
        | none => simp
        | some value => simp
      | keepAlive =>
        have silent : parseFrame script (Sent.frame floats .keepAlive) = none := rfl
        have nothing : Sent.shows floats script .keepAlive = none := rfl
        rw [takeFrame, silent, nothing]
        simp
      | failed | done => cases here
    rw [map_cons, foldlM_cons, taken]
    refine (ih later _).trans ?_
    rw [filterMap_cons]
    cases sent.shows floats script <;> simp

theorem take_failed (lawful : floats.Lawful) (message : String) {value : Data}
    (parsed : script.parse (renderSpaced floats (.obj (errorData message))) = some value)
    (aborted : Bool) (client : Client Item) :
    takeFrame script client (Sent.frame floats (.failed message)) =
      .error ⟨client.shown, ending floats script aborted (some (.failed message))⟩ := by
  have framed : Sent.frame floats (.failed message) =
      frameText floats ⟨"error", errorData message⟩ := rfl
  rw [takeFrame, framed, parse_frame lawful "error" (by decide), parsed, ending, parsed]
  simp

theorem take_done (lawful : floats.Lawful) {value : Data}
    (parsed : script.parse (renderSpaced floats (.obj [])) = some value) (client : Client Item) :
    takeFrame script client (Sent.frame floats .done) = .ok { client with completed := true } := by
  have framed : Sent.frame floats .done = frameText floats ⟨"done", []⟩ := rfl
  rw [takeFrame, framed, parse_frame lawful "done" (by decide), parsed]
  simp

end

/-- However the body of a stream is cut into pieces, the caller is shown the snapshots that were
written, in their order, and told how the stream ended. -/
theorem orchestration_streamed {floats : FloatText} (lawful : floats.Lawful) {Data Item : Type}
    (script : Script Data Item)
    (parses : ∀ data, (Json.obj data).distinctKeys = true →
      (script.parse (renderSpaced floats (.obj data))).isSome = true)
    (polls : List Poll) {pieces : List (List Char)}
    (whole : pieces.flatten = wire floats (eventStream (-1) polls)) (aborted : Bool) :
    streamOrchestration script aborted pieces =
      ⟨(eventStream (-1) polls).filterMap (Sent.shows floats script),
        ending floats script aborted (eventStream (-1) polls).getLast?⟩ := by
  obtain ⟨front, last, shape, opens, closed⟩ := event_stream_shaped polls (-1)
  have cut : cutFrames (wire floats (eventStream (-1) polls)) =
      ((eventStream (-1) polls).map (Sent.frame floats), []) := by
    rw [cutFrames, split_wire lawful, dropLast_concat]
    simp
  have start : (cutFrames []).2 = [] := rfl
  have read := read_pieces script pieces [] (⟨[], false⟩ : Client Item)
  rw [start, nil_append, ← cut_frames_feed, whole, cut, shape, map_append,
    foldlM_append, take_open lawful front opens] at read
  rw [streamOrchestration, read, shape, filterMap_append]
  rcases closed with rfl | ⟨item, rfl, closed⟩
  · have open_ : ending floats script aborted front.getLast? =
        if aborted then none else some "专家团状态流意外断开" := by
      cases last : front.getLast? with
      | none => rfl
      | some item =>
        cases item with
        | snapshot | keepAlive => rfl
        | failed | done => exact absurd (opens _ (mem_of_getLast? last)) id
    rw [append_nil, filterMap_nil, append_nil, open_]
    cases aborted <;> rfl
  · rw [getLast?_concat, map_singleton]
    cases item with
    | snapshot | keepAlive => exact absurd trivial closed
    | failed message =>
      obtain ⟨value, parsed⟩ := isSome_iff_exists.mp (parses (errorData message) rfl)
      have taken := take_failed lawful message parsed aborted
      simp only [nil_append, foldlM_cons, bind, Except.bind, taken, Except.map]
      exact congrArg (fun shown => Ending.mk shown _) (append_nil _).symm
    | done =>
      obtain ⟨value, parsed⟩ := isSome_iff_exists.mp (parses [] rfl)
      have taken := take_done lawful parsed
      simp only [nil_append, foldlM_cons, foldlM_nil, bind, Except.bind, taken, pure,
        Except.pure, Except.map]
      exact congrArg (fun shown => Ending.mk shown none) (append_nil _).symm

def jsonScript : Script Json Json where
  parse := fun text => jsonLoads ratioFloats (String.ofList text)
  orchestration := Json.getTruthy "orchestration"
  message
    | .obj [("message", .str message)] => some message
    | _ => none

def finishedPolls : List Poll :=
  [⟨true, some (1, "running"), some [("id", .str "orc-1")], false⟩,
    ⟨true, some (1, "running"), none, true⟩,
    ⟨true, some (2, "completed"), some [("id", .str "orc-1")], false⟩]

theorem finished_orchestration_streamed : (streamOrchestration jsonScript false
      [(wire ratioFloats (eventStream (-1) finishedPolls)).take 40,
        (wire ratioFloats (eventStream (-1) finishedPolls)).drop 40]).error = none := by
  rw [orchestration_streamed ratio_floats_lawful jsonScript
    (fun _ distinct => isSome_iff_exists.mpr ⟨_, loads_spaced ratio_floats_lawful distinct⟩)
    finishedPolls (by simp) false]
  decide +kernel

end AgentMate.OrchestrationStream
