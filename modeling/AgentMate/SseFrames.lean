import AgentMate.FrontMatter
import AgentMate.JsonScan

/-!
# Events of an execution as SSE frames

`events.sse` writes an event as two lines and an empty one; `server_run_worker._frames` splits a
chunk at the empty lines and every frame with `str.splitlines()`. The JSON text of the data keeps
the line breaks outside ASCII, so the line of the data may be cut.
-/

namespace AgentMate.SseFrames

open PlainText List Option

/-- The names that `agent.events` uses. -/
def eventNames : List String :=
  ["status", "run", "think", "step", "file_read", "diff", "todo", "plan_snapshot", "plan_patch",
    "text", "ask_user", "qa_summary", "context_degraded", "artifact", "work_item", "usage", "error",
    "done"]

def sse (floats : FloatText) (event : String) (data : Option (List (String × Json))) : String :=
  let payload := String.ofList (renderSpaced floats (.obj (data.getD [])))
  "event: " ++ event ++ "\ndata: " ++ payload ++ "\n\n"

/-- `chunk.replace("\r\n", "\n")`. -/
def replaceCrlf : List Char → List Char
  | '\r' :: '\n' :: rest => '\n' :: replaceCrlf rest
  | char :: rest => char :: replaceCrlf rest
  | [] => []

/-- `chunk.split("\n\n")`, with the frame that is read now. -/
def splitFrames : List Char → List Char → List (List Char)
  | '\n' :: '\n' :: rest, current => current :: splitFrames rest []
  | char :: rest, current => splitFrames rest (current ++ [char])
  | [], current => [current]

structure FrameLines where
  eventType : String
  payloadLines : List (List Char)

/-- `event:` and `data:`. -/
def eventMark : List Char := ['e', 'v', 'e', 'n', 't', ':']

def dataMark : List Char := ['d', 'a', 't', 'a', ':']

def readLine (read : FrameLines) (line : List Char) : FrameLines :=
  if eventMark.isPrefixOf line then
    { read with eventType := String.ofList (stripChars (line.drop 6)) }
  else if dataMark.isPrefixOf line then
    { read with payloadLines := read.payloadLines ++ [stripChars (line.drop 5)] }
  else read

def readLines (lines : List (List Char)) : FrameLines := lines.foldl readLine ⟨"message", []⟩

def joinLines : List (List Char) → List Char
  | [] => []
  | [line] => line
  | line :: next :: rest => line ++ '\n' :: joinLines (next :: rest)

def readFrame (floats : FloatText) (frame : List Char) : Option (String × Json) :=
  if stripChars frame = [] then none
  else
    let read := readLines (FrontMatter.splitLines frame [])
    if read.payloadLines = [] then none
    else
      match jsonLoads floats (String.ofList (joinLines read.payloadLines)) with
      | some (.obj fields) => some (read.eventType, .obj fields)
      | _ => none

def frames (floats : FloatText) (chunk : String) : List (String × Json) :=
  (splitFrames (replaceCrlf chunk.toList) []).filterMap (readFrame floats)

structure RuntimeEvent where
  event : String
  data : List (String × Json)

def eventLine (event : RuntimeEvent) : List Char := eventMark ++ ' ' :: event.event.toList

def dataLine (data : List Char) : List Char := dataMark ++ ' ' :: data

def frameText (floats : FloatText) (event : RuntimeEvent) : List Char :=
  eventLine event ++ '\n' :: dataLine (renderSpaced floats (.obj event.data))

/-- No string and no key has a line break outside ASCII. -/
def RuntimeEvent.Unbroken (event : RuntimeEvent) : Prop :=
  ∀ char ∈ (Json.obj event.data).texts, isBreak char = false

section

theorem replace_crlf_self {text : List Char} (none : '\r' ∉ text) : replaceCrlf text = text := by
  induction text with
  | nil => rfl
  | cons char text ih =>
    rw [mem_cons, not_or] at none
    rw [replaceCrlf, ih none.2]
    intro rest same
    exact absurd same.symm none.1

theorem split_frames_line {line : List Char} (whole : '\n' ∉ line) (rest current : List Char) :
    splitFrames (line ++ rest) current = splitFrames rest (current ++ line) := by
  induction line generalizing current with
  | nil => rw [nil_append, append_nil]
  | cons char line ih =>
    rw [mem_cons, not_or] at whole
    rw [cons_append, splitFrames, ih whole.2, append_assoc]
    · rfl
    · intro _ same
      exact absurd same.symm whole.1

theorem split_frames_event {first second : List Char} (firstWhole : '\n' ∉ first)
    (secondWhole : '\n' ∉ second) (filled : second ≠ []) (rest : List Char) :
    splitFrames (first ++ '\n' :: second ++ '\n' :: '\n' :: rest) [] =
      (first ++ '\n' :: second) :: splitFrames rest [] := by
  rw [append_assoc, split_frames_line firstWhole, cons_append, splitFrames]
  · rw [split_frames_line secondWhole, splitFrames]
    simp
  · cases second with
    | nil => exact absurd rfl filled
    | cons head second =>
      rintro _ _ ⟨⟩
      exact secondWhole mem_cons_self

theorem split_lines_plain {line : List Char}
    (whole : ∀ char ∈ line, FrontMatter.endsLine char = false)
    (rest current : List Char) :
    FrontMatter.splitLines (line ++ rest) current =
      FrontMatter.splitLines rest (current ++ line) := by
  induction line generalizing current with
  | nil => rw [nil_append, append_nil]
  | cons char line ih =>
    obtain ⟨plain, later⟩ := forall_mem_cons.mp whole
    rw [cons_append, FrontMatter.splitLines, plain, if_neg Bool.false_ne_true, ih later,
      append_assoc]
    · rfl
    · rintro _ rfl
      exact absurd plain (by decide)

theorem split_lines_break {char : Char} (ends : FrontMatter.endsLine char = true)
    (other : char ≠ '\r') (rest current : List Char) :
    FrontMatter.splitLines (char :: rest) current = current :: FrontMatter.splitLines rest [] := by
  rw [FrontMatter.splitLines, ends, if_pos rfl]
  rintro _ rfl
  exact absurd rfl other

theorem strip_chars_solid {first last : Char} (middle : List Char)
    (front : isWhitespace first = false) (back : isWhitespace last = false) :
    stripChars (' ' :: first :: (middle ++ [last])) = first :: (middle ++ [last]) := by
  have blank : isWhitespace ' ' = true := rfl
  rw [stripChars, dropWhile_cons_of_pos blank,
    dropWhile_cons_of_neg (by simp [front]), ← cons_append, reverse_concat,
    dropWhile_cons_of_neg (by simp [back]), ← reverse_concat, reverse_reverse]

theorem strip_chars_ne_nil {first : Char} (rest : List Char) (front : isWhitespace first = false) :
    stripChars (first :: rest) ≠ [] := by
  rw [stripChars, dropWhile_cons_of_neg (by simp [front])]
  intro empty
  have all := dropWhile_eq_nil_iff.mp (reverse_eq_nil_iff.mp empty) first (by simp)
  exact absurd (front.symm.trans all) Bool.false_ne_true

theorem strip_chars_front {first : Char} (rest : List Char) (front : isWhitespace first = false) :
    ∃ white, first :: rest = stripChars (' ' :: first :: rest) ++ white ∧
      ∀ char ∈ white, isWhitespace char = true := by
  have blank : isWhitespace ' ' = true := rfl
  refine ⟨((first :: rest).reverse.takeWhile isWhitespace).reverse, ?_, ?_⟩
  · rw [stripChars, dropWhile_cons_of_pos blank,
      dropWhile_cons_of_neg (by simp [front]), ← reverse_append,
      takeWhile_append_dropWhile, reverse_reverse]
  · intro char mem
    exact mem_takeWhile_imp (mem_reverse.mp mem)

end

section

variable {floats : FloatText} {event : RuntimeEvent}

theorem fields_closed (floats : FloatText) (fields : List (String × Json)) :
    ∃ middle, renderSpacedFields floats fields = middle ++ ['\x7d'] := by
  induction fields with
  | nil => exact ⟨[], rfl⟩
  | cons field rest ih =>
    cases rest with
    | nil =>
      refine ⟨renderString field.1 ++ ':' :: ' ' :: renderSpaced floats field.2, ?_⟩
      simp [renderSpacedFields]
    | cons next rest =>
      obtain ⟨middle, same⟩ := ih
      refine ⟨renderString field.1 ++ ':' :: ' ' :: (renderSpaced floats field.2 ++
        ',' :: ' ' :: middle), ?_⟩
      rw [renderSpacedFields, same]
      simp

variable {char : Char} {front : List Char}

theorem ends_line_wide (printable : 32 ≤ char.toNat) :
    FrontMatter.endsLine char = isBreak char := by
  have low : (decide (10 ≤ char.toNat) && decide (char.toNat ≤ 13)) = false := by
    simp
    omega
  have high : (decide (28 ≤ char.toNat) && decide (char.toNat ≤ 30)) = false := by
    simp
    omega
  rw [FrontMatter.endsLine, isBreak]
  simp only [low, high, Bool.false_or]

theorem break_wide (broken : isBreak char = true) : 127 < char.toNat := by
  simp only [isBreak, Bool.or_eq_true, beq_iff_eq] at broken
  omega

theorem name_plain : ∀ name ∈ eventNames, stripChars (' ' :: name.toList) = name.toList ∧
      name.toList.all (fun char => !FrontMatter.endsLine char) = true := by
  decide +kernel

theorem scan_before_break {front white rest : List Char} (broken : isBreak char = true)
    (scanned : scan .outside ((front ++ white) ++ char :: rest) = some .outside)
    (blank : ∀ other ∈ white, isWhitespace other = true) :
    ∃ state, scan .outside front = some state ∧ state ≠ .outside := by
  rw [scan, foldlM_append, bind_eq_bind, bind_eq_some_iff] at scanned
  obtain ⟨before, first, later⟩ := scanned
  rw [foldlM_append, bind_eq_bind, bind_eq_some_iff] at first
  obtain ⟨state, read, trailing⟩ := first
  refine ⟨state, read, ?_⟩
  rintro rfl
  have quiet : ∀ white : List Char, (∀ other ∈ white, isWhitespace other = true) →
      ∀ {after : TextState}, white.foldlM TextState.next .outside = some after →
        after = .outside := by
    intro white
    induction white with
    | nil =>
      intro _ after same
      exact (Option.some.inj same).symm
    | cons other white ih =>
      intro blank after same
      obtain ⟨space, others⟩ := forall_mem_cons.mp blank
      have unquoted : other ≠ '\x22' := by
        rintro rfl
        exact absurd space (by decide)
      rw [foldlM_cons, TextState.next, if_neg unquoted] at same
      split at same
      · cases same
      · exact ih others same
  have unquoted : char ≠ '\x22' := by
    rintro rfl
    exact absurd broken (by decide)
  rw [quiet white blank trailing, foldlM_cons, TextState.next, if_neg unquoted,
    if_pos broken] at later
  cases later

theorem loads_cut {state : TextState} (lines : List (List Char))
    (scanned : scan .outside front = some state) (inside : state ≠ .outside) :
    jsonLoads floats (String.ofList (joinLines (front :: lines))) = none := by
  by_contra read
  obtain ⟨value, read⟩ := ne_none_iff_exists'.mp read
  have whole := loads_scan read
  rw [String.toList_ofList] at whole
  cases lines with
  | nil => exact inside (Option.some.inj (scanned.symm.trans whole))
  | cons line lines =>
    rw [joinLines, scan, foldlM_append,
      show front.foldlM TextState.next .outside = _ from scanned] at whole
    cases state with
    | outside => exact inside rfl
    | inString => cases whole
    | escaped => cases whole

theorem data_printable (lawful : floats.Lawful) (data : List (String × Json)) :
    Written (renderSpaced floats (.obj data)) (Json.obj data).texts :=
  spaced_written lawful (.obj data)

theorem read_lines_more (lines : List (List Char)) (read : FrameLines) :
    ∃ more, (lines.foldl readLine read).payloadLines = read.payloadLines ++ more := by
  induction lines generalizing read with
  | nil => exact ⟨[], (append_nil _).symm⟩
  | cons line lines ih =>
    obtain ⟨more, same⟩ := ih (readLine read line)
    rw [foldl_cons, same]
    unfold readLine
    split
    · exact ⟨more, rfl⟩
    · split
      · exact ⟨_, append_assoc _ _ _⟩
      · exact ⟨more, rfl⟩

theorem event_line_plain (named : event.event ∈ eventNames) :
    ∀ char ∈ eventLine event, FrontMatter.endsLine char = false := by
  intro char mem
  rcases mem_append.mp mem with mark | name
  · have marks : eventMark.all (fun char => !FrontMatter.endsLine char) = true := by decide
    simpa using List.all_eq_true.mp marks char mark
  · rcases mem_cons.mp name with rfl | listed
    · rfl
    · simpa using List.all_eq_true.mp (name_plain event.event named).2 char listed

theorem frame_lines (named : event.event ∈ eventNames) (data : List Char) :
    readLines (FrontMatter.splitLines (eventLine event ++ '\n' :: dataLine data) []) =
      (FrontMatter.splitLines (dataLine data) []).foldl readLine ⟨event.event, []⟩ := by
  have trimmed := (name_plain event.event named).1
  rw [split_lines_plain (event_line_plain named), split_lines_break (by decide) (by decide),
    nil_append, readLines, foldl_cons]
  have first : readLine ⟨"message", []⟩ (eventLine event) =
      ⟨String.ofList (stripChars (' ' :: event.event.toList)), []⟩ := rfl
  rw [first, trimmed, String.ofList_toList]

theorem data_line (read : FrameLines) (data : List Char) : readLine read (dataLine data) =
      { read with payloadLines := read.payloadLines ++ [stripChars (' ' :: data)] } := rfl

theorem data_head (floats : FloatText) (data : List (String × Json)) :
    renderSpaced floats (.obj data) = '\x7b' :: renderSpacedFields floats data := by
  rw [renderSpaced]

theorem data_line_plain (printable : ∀ char ∈ front, 32 ≤ char.toNat)
    (unbroken : ∀ char ∈ front, isBreak char = false) :
    ∀ char ∈ dataLine front, FrontMatter.endsLine char = false := by
  intro char mem
  rcases mem_append.mp mem with mark | text
  · have marks : dataMark.all (fun char => !FrontMatter.endsLine char) = true := by decide
    simpa using List.all_eq_true.mp marks char mark
  rcases mem_cons.mp text with rfl | listed
  · rfl
  · rw [ends_line_wide (printable char listed)]
    exact unbroken char listed

theorem read_unbroken (lawful : floats.Lawful) (named : event.event ∈ eventNames)
    (distinct : (Json.obj event.data).distinctKeys = true) (unbroken : event.Unbroken) :
    readFrame floats (frameText floats event) = some (event.event, .obj event.data) := by
  have written := data_printable lawful event.data
  have whole : ∀ char ∈ renderSpaced floats (.obj event.data), isBreak char = false := by
    intro char mem
    by_contra broken
    rw [Bool.not_eq_false] at broken
    have listed := (written.wide char (break_wide broken)).mp mem
    exact absurd ((unbroken char listed).symm.trans broken) Bool.false_ne_true
  have filled : stripChars (frameText floats event) ≠ [] := strip_chars_ne_nil _ rfl
  obtain ⟨middle, closed⟩ := fields_closed floats event.data
  have solid : stripChars (' ' :: renderSpaced floats (.obj event.data)) =
      renderSpaced floats (.obj event.data) := by
    rw [data_head, closed]
    exact strip_chars_solid middle rfl rfl
  have lines := split_lines_plain (data_line_plain written.printable whole) [] []
  rw [append_nil, nil_append] at lines
  have one : FrontMatter.splitLines [] (dataLine (renderSpaced floats (.obj event.data))) =
      [dataLine (renderSpaced floats (.obj event.data))] := rfl
  rw [readFrame, if_neg filled, frameText, frame_lines named, lines, one, foldl_cons,
    foldl_nil, data_line, solid]
  dsimp only
  rw [nil_append, if_neg (cons_ne_nil _ _), joinLines, loads_spaced lawful distinct]

theorem read_broken (lawful : floats.Lawful) (named : event.event ∈ eventNames)
    (distinct : (Json.obj event.data).distinctKeys = true) (broken : ¬event.Unbroken) :
    readFrame floats (frameText floats event) = none := by
  have written := data_printable lawful event.data
  have mem : ∃ char ∈ renderSpaced floats (.obj event.data), isBreak char = true := by
    rw [RuntimeEvent.Unbroken] at broken
    push Not at broken
    obtain ⟨char, listed, breaks⟩ := broken
    rw [ne_eq, Bool.not_eq_false] at breaks
    exact ⟨char, (written.wide char (break_wide breaks)).mpr listed, breaks⟩
  obtain ⟨char, found⟩ := isSome_iff_exists.mp (find?_isSome.mpr mem)
  obtain ⟨breaks, front, rest, same, before⟩ := find?_eq_some_iff_append.mp found
  have frontWhole : ∀ other ∈ front, isBreak other = false := by simpa using before
  have scanned := loads_scan (loads_spaced lawful distinct)
  rw [String.toList_ofList, same] at scanned
  have printable : ∀ other ∈ front ++ char :: rest, 32 ≤ other.toNat := same ▸ written.printable
  obtain ⟨first, tail, shape⟩ :
      ∃ first tail, front = first :: tail ∧ isWhitespace first = false := by
    cases front with
    | nil =>
      have head := List.cons.inj ((data_head floats event.data).symm.trans same)
      rw [← head.1] at breaks
      exact absurd breaks (by decide)
    | cons first tail =>
      have head := List.cons.inj ((data_head floats event.data).symm.trans same)
      exact ⟨first, tail, rfl, head.1 ▸ rfl⟩
  obtain ⟨rfl, visible⟩ := shape
  obtain ⟨white, trimmed, blank⟩ := strip_chars_front tail visible
  rw [trimmed] at scanned
  obtain ⟨state, read, inside⟩ := scan_before_break breaks scanned blank
  have charEnds : FrontMatter.endsLine char = true := by
    rw [ends_line_wide (printable char (by simp)), breaks]
  have other : char ≠ '\r' := by
    rintro rfl
    exact absurd breaks (by decide)
  have linePlain := data_line_plain
    (fun other mem => printable other (mem_append_left _ mem)) frontWhole
  rw [readFrame]
  split
  · rfl
  · have cut : dataLine (first :: tail ++ char :: rest) =
        dataLine (first :: tail) ++ char :: rest := rfl
    rw [frameText, frame_lines named, same, cut, split_lines_plain linePlain,
      split_lines_break charEnds other, nil_append, foldl_cons, data_line]
    obtain ⟨more, payload⟩ := read_lines_more (FrontMatter.splitLines rest [])
      ⟨event.event, [] ++ [stripChars (' ' :: first :: tail)]⟩
    dsimp only
    rw [payload, nil_append, singleton_append, if_neg (cons_ne_nil _ _), loads_cut more read inside]

theorem event_line_whole (named : event.event ∈ eventNames)
    (ends : FrontMatter.endsLine char = true) : char ∉ eventLine event := fun mem =>
  Bool.false_ne_true ((event_line_plain named char mem).symm.trans ends)

theorem data_line_whole (lawful : floats.Lawful) (data : List (String × Json))
    (control : char.toNat < 32) : char ∉ dataLine (renderSpaced floats (.obj data)) := by
  intro mem
  have printable : 32 ≤ char.toNat := by
    rcases mem_append.mp mem with mark | text
    · have marks : dataMark.all isAscii = true := by decide
      exact (of_decide_eq_true (List.all_eq_true.mp marks char mark)).1
    · rcases mem_cons.mp text with rfl | listed
      · decide
      · exact (data_printable lawful data).printable char listed
  omega

theorem sse_text (event : RuntimeEvent) : (sse floats event.event (some event.data)).toList =
      frameText floats event ++ ['\n', '\n'] := by
  have marks : "event: ".toList = eventMark ++ [' '] ∧
      "\ndata: ".toList = '\n' :: (dataMark ++ [' ']) ∧ "\n\n".toList = ['\n', '\n'] := by
    decide +kernel
  simp [sse, frameText, eventLine, dataLine, marks]

theorem frames_filter (lawful : floats.Lawful) (events : List RuntimeEvent)
    (named : ∀ event ∈ events, event.event ∈ eventNames) :
    frames floats (String.join (events.map fun event => sse floats event.event (some event.data))) =
      events.filterMap fun event => readFrame floats (frameText floats event) := by
  have text : (String.join (events.map fun event =>
      sse floats event.event (some event.data))).toList =
        events.flatMap fun event => frameText floats event ++ ['\n', '\n'] := by
    rw [String.toList_join, flatMap_map]
    exact congrArg (fun text => events.flatMap text) (funext sse_text)
  have unreturned : '\r' ∉ events.flatMap fun event => frameText floats event ++ ['\n', '\n'] := by
    intro mem
    obtain ⟨event, listed, char⟩ := mem_flatMap.mp mem
    rcases mem_append.mp char with inFrame | ending
    · rcases mem_append.mp inFrame with first | second
      · exact event_line_whole (named event listed) rfl first
      · rcases mem_cons.mp second with same | data
        · exact absurd same (by decide)
        · exact data_line_whole lawful event.data (by decide) data
    · exact absurd ending (by decide)
  rw [frames, text, replace_crlf_self unreturned]
  clear text unreturned
  induction events with
  | nil => rfl
  | cons event events ih =>
    obtain ⟨known, others⟩ := forall_mem_cons.mp named
    have whole := event_line_whole known (show FrontMatter.endsLine '\n' = true from rfl)
    have shape : (event :: events).flatMap (fun event => frameText floats event ++ ['\n', '\n']) =
        eventLine event ++ '\n' :: dataLine (renderSpaced floats (.obj event.data)) ++
          '\n' :: '\n' :: events.flatMap fun event => frameText floats event ++ ['\n', '\n'] := by
      simp [frameText]
    rw [shape, split_frames_event whole (data_line_whole lawful event.data (by decide))
      (cons_ne_nil _ _), filterMap_cons, ih others, filterMap_cons]
    rfl

end

theorem filter_map_all {Item Result : Type*} {read : Item → Option Result} {whole : Item → Result} :
    ∀ {items : List Item}, (∀ item ∈ items, read item = none ∨ read item = some (whole item)) →
      (items.filterMap read = items.map whole ↔ ∀ item ∈ items, read item = some (whole item))
  | [], _ => by simp
  | item :: items, either => by
      obtain ⟨here, later⟩ := forall_mem_cons.mp either
      have ih := filter_map_all later
      rw [forall_mem_cons, ← ih, map_cons, filterMap_cons]
      rcases here with dropped | kept
      · have fewer := length_filterMap_le read items
        rw [dropped]
        dsimp only
        apply iff_of_false
        · intro same
          have lengths := congrArg List.length same
          rw [length_cons, length_map] at lengths
          omega
        · rintro ⟨kept, -⟩
          cases kept
      · rw [kept]
        exact ⟨fun same => ⟨rfl, (List.cons.inj same).2⟩, fun both => congrArg _ both.2⟩

/-- The frames that are read from the events of an execution are these events exactly when no
string of their data has a line break outside ASCII. -/
theorem frames_of_events {floats : FloatText} (lawful : floats.Lawful)
    (events : List RuntimeEvent) (named : ∀ event ∈ events, event.event ∈ eventNames)
    (distinct : ∀ event ∈ events, (Json.obj event.data).distinctKeys = true) :
    frames floats (String.join (events.map fun event => sse floats event.event (some event.data))) =
        events.map (fun event => (event.event, .obj event.data)) ↔
      ∀ event ∈ events, event.Unbroken := by
  have each : ∀ event ∈ events, (event.Unbroken ∧ readFrame floats (frameText floats event) =
        some (event.event, .obj event.data)) ∨
      (¬event.Unbroken ∧ readFrame floats (frameText floats event) = none) := by
    intro event listed
    by_cases unbroken : event.Unbroken
    · exact .inl ⟨unbroken,
        read_unbroken lawful (named event listed) (distinct event listed) unbroken⟩
    · exact .inr ⟨unbroken,
        read_broken lawful (named event listed) (distinct event listed) unbroken⟩
  rw [frames_filter lawful events named, filter_map_all]
  · constructor
    · intro read event listed
      rcases each event listed with ⟨unbroken, -⟩ | ⟨-, dropped⟩
      · exact unbroken
      · cases dropped.symm.trans (read event listed)
    · intro unbroken event listed
      rcases each event listed with ⟨-, kept⟩ | ⟨broken, -⟩
      · exact kept
      · exact absurd (unbroken event listed) broken
  · intro event listed
    rcases each event listed with ⟨-, kept⟩ | ⟨-, dropped⟩
    · exact .inr kept
    · exact .inl dropped

def textEvent (text : String) : RuntimeEvent := ⟨"text", [("md", .str text)]⟩

theorem plain_text_read : frames ratioFloats (String.join ([textEvent "第一行\n\"二\""].map fun event =>
        sse ratioFloats event.event (some event.data))) =
      [textEvent "第一行\n\"二\""].map fun event => (event.event, .obj event.data) := by
  apply (frames_of_events ratio_floats_lawful _ (by decide) (by decide)).mpr
  have plain : ("md".toList ++ ("第一行\n\"二\"".toList ++ [])).all (fun char => !isBreak char) =
      true := by
    decide +kernel
  intro event listed
  rw [mem_singleton.mp listed]
  intro char mem
  simpa using List.all_eq_true.mp plain char mem

theorem line_separator_dropped :
    ¬frames ratioFloats (String.join ([textEvent "a\u2028b"].map fun event =>
        sse ratioFloats event.event (some event.data))) =
      [textEvent "a\u2028b"].map fun event => (event.event, .obj event.data) := by
  have dropped : (frames ratioFloats (String.join ([textEvent "a\u2028b"].map fun event =>
      sse ratioFloats event.event (some event.data)))).length = 0 := by
    decide +kernel
  intro same
  rw [same] at dropped
  cases dropped

end AgentMate.SseFrames
