import AgentMate.FollowedLog

/-! # One display event on both sides -/

namespace AgentMate

open List Option

variable {Hash : Type}

/-- The property types of the event interfaces, as far as a transcript reads them. -/
inductive FieldType where
  | text | number | list | textOrNull | yes | anything
  deriving DecidableEq, Repr

/-- `Number.MAX_VALUE`. -/
def maxNumber : Nat := 2 ^ 1024 - 2 ^ 971

def FieldType.admits : FieldType → Json → Bool
  | .text, .str _ => true
  | .number, .int value => value.natAbs ≤ maxNumber
  | .number, .float _ => true
  | .list, .arr _ => true
  | .textOrNull, .str _ | .textOrNull, .null => true
  | .yes, .bool true => true
  | .anything, _ => true
  | _, _ => false

structure InterfaceField where
  name : String
  type : FieldType
  optional : Bool
  deriving DecidableEq

def InterfaceField.admits (field : InterfaceField) : Option Json → Bool
  | some value => field.type.admits value
  | none => field.optional

def required (name : String) (type : FieldType) : InterfaceField := ⟨name, type, false⟩

/-- A property declared with `?`. -/
def optionalField (name : String) (type : FieldType) : InterfaceField := ⟨name, type, true⟩

/-- `RunPlanEvent`. -/
def planInterface : List InterfaceField :=
  [required "version" .number, required "items" .list, optionalField "project_id" .textOrNull]

/-- The interfaces of the events that a transcript holds; the payload of any other
type does not matter here. -/
def SSEType.interface? : SSEType → Option (List InterfaceField)
  | .think | .todo => some [required "text" .text]
  | .step => some [required "tool" .text, required "label" .text]
  | .fileRead => some [required "path" .text, required "range" .text]
  | .diff => some [required "op" .text, required "file" .text, required "add" .number,
      required "del" .number]
  | .planSnapshot | .planPatch => some planInterface
  | .text => some [required "md" .text]
  | .qaSummary => some [required "qa" .list]
  | .contextDegraded => some [required "reason" .text, required "excerpt_messages" .number,
      required "retry_on_next_turn" .yes]
  | .artifact => some [optionalField "id" .text, optionalField "run_id" .text,
      required "name" .text, required "size" .text, required "path" .text,
      optionalField "sha256" .text, optionalField "mime_type" .text,
      optionalField "is_primary" .anything, optionalField "display_order" .number,
      optionalField "acceptance_status" .text]
  | _ => none

def Json.conforms (fields : List InterfaceField) (payload : Json) : Bool :=
  match payload with
  | .obj entries => entries.all (fun entry => fields.any fun field => field.name = entry.1) &&
      fields.all fun field => field.admits (payload.get? field.name)
  | _ => false

/-- The numbers that the Server stores through `int()`. -/
def SSEType.counts : SSEType → List String
  | .diff => ["add", "del"]
  | .planSnapshot | .planPatch => ["version"]
  | .contextDegraded => ["excerpt_messages"]
  | _ => []

def Json.isIntegral : Json → Bool
  | .int _ => true
  | .float value => value.value.den = 1
  | _ => false

def EventRow.sseType? (row : EventRow Hash) : Option SSEType :=
  (afterPrefix? "ui." row.eventType).bind AgentMate.sseType?

/-- Display events travel under `ui.`, with the properties of their interface. -/
def EventRow.wellTyped (row : EventRow Hash) : Bool :=
  match afterPrefix? "ui." row.eventType with
  | some type => ((AgentMate.sseType? type).bind SSEType.interface?).all fun fields =>
    row.payload.conforms fields
  | none => (AgentMate.sseType? row.eventType).isNone

/-- The numbers that the Server stores through `int()` have no fraction. -/
def EventRow.integral (row : EventRow Hash) : Bool :=
  row.sseType?.all fun type => type.counts.all fun key =>
    (row.payload.get? key).all Json.isIntegral

section

variable {toNumber : Int → Int} {text : PyText} {key : String} {payload value : Json}

theorem parsed_fields_find (fields : List (String × Json)) :
    ((Json.parsedFields toNumber fields).find? fun field => field.1 = key).map Prod.snd =
      ((fields.find? fun field => field.1 = key).map Prod.snd).map (Json.parsed toNumber) := by
  induction fields with
  | nil => rfl
  | cons field rest ih =>
    obtain ⟨name, value⟩ := field
    rw [Json.parsedFields]
    by_cases same : name = key
    · simp [same]
    · simp only [find?_cons_of_neg, same, decide_false, Bool.false_eq_true, not_false_eq_true]
      exact ih

theorem parsed_get (payload : Json) :
    (payload.parsed toNumber).get? key = (payload.get? key).map (Json.parsed toNumber) := by
  cases payload with
  | obj fields =>
    rw [Json.parsed]
    exact parsed_fields_find fields
  | float value =>
    rw [Json.parsed]
    split <;> rfl
  | _ => rfl

variable {text_ : String} {fields : List InterfaceField}

theorem str_field_text (found : payload.get? key = some (.str text_)) :
    payload.strField text key = text_ := by
  rw [Json.strField, Json.getTruthy, found]
  by_cases empty : text_ = ""
  · subst empty
    rfl
  · simp [Option.filter, Json.truthy, empty, Json.pyStr]

theorem int_field_integral (toNumber : Int → Int) (text : PyText) (found : payload.get? key = some value)
    (integral : value.isIntegral = true) :
    ∃ count, payload.intField text key = some count ∧
      (Json.int count).parsed toNumber = value.parsed toNumber := by
  rw [Json.intField, Json.getTruthy, found]
  cases value with
  | int count =>
    by_cases zero : count = 0
    · subst zero
      exact ⟨0, rfl, rfl⟩
    · refine ⟨count, ?_, rfl⟩
      simp [Option.filter, Json.truthy, zero, Json.pyInt]
  | float count =>
    have whole : count.value.den = 1 := of_decide_eq_true integral
    have parsed : (Json.float count).parsed toNumber = .int (toNumber count.value.num) := by
      rw [Json.parsed, if_pos whole]
    rw [parsed]
    by_cases zero : count.value = 0
    · refine ⟨0, ?_, ?_⟩
      · simp [Option.filter, Json.truthy, zero]
      · rw [zero]
        rfl
    · refine ⟨count.value.num, ?_, rfl⟩
      simp [Option.filter, Json.truthy, zero, Json.pyInt, whole]
  | _ => cases integral

theorem conforms_field (conforms : payload.conforms fields = true) {field : InterfaceField}
    (mem : field ∈ fields) :
    field.admits (payload.get? field.name) = true := by
  cases payload with
  | obj entries =>
    rw [Json.conforms, Bool.and_eq_true] at conforms
    exact List.all_eq_true.mp conforms.2 field mem
  | _ => cases conforms

theorem conforms_other (key : String) (conforms : payload.conforms fields = true)
    (other : ∀ field ∈ fields, field.name ≠ key) : payload.get? key = none := by
  cases payload with
  | obj entries =>
    rw [Json.conforms, Bool.and_eq_true] at conforms
    rw [Json.get?, map_eq_none_iff, find?_eq_none]
    intro entry mem same
    obtain ⟨field, fieldMember, name⟩ :=
      List.any_eq_true.mp (List.all_eq_true.mp conforms.1 entry mem)
    exact other field fieldMember ((of_decide_eq_true name).trans (of_decide_eq_true same))
  | _ => cases conforms

theorem conforms_present {type : FieldType} (conforms : payload.conforms fields = true)
    (mem : required key type ∈ fields) :
    ∃ value, payload.get? key = some value ∧ type.admits value = true := by
  have admitted := conforms_field conforms mem
  simp only [required, InterfaceField.admits] at admitted
  cases found : payload.get? key with
  | none =>
    rw [found] at admitted
    cases admitted
  | some value =>
    rw [found] at admitted
    exact ⟨value, rfl, admitted⟩

theorem conforms_text (key : String) (conforms : payload.conforms fields = true)
    (mem : required key .text ∈ fields) :
    ∃ text_, payload.get? key = some (.str text_) := by
  obtain ⟨value, found, admitted⟩ := conforms_present conforms mem
  cases value <;> first | exact ⟨_, found⟩ | cases admitted

theorem conforms_number (toNumber : Int → Int) (key : String)
    (conforms : payload.conforms fields = true) (mem : required key .number ∈ fields) :
    ∃ value, payload.get? key = some value ∧ (payload.parsed toNumber).hasNumber key = true := by
  obtain ⟨value, found, admitted⟩ := conforms_present conforms mem
  refine ⟨value, found, ?_⟩
  rw [Json.hasNumber, parsed_get, found]
  cases value with
  | int count => rfl
  | float count =>
    rw [map_some, Json.parsed]
    by_cases whole : count.value.den = 1
    · rw [if_pos whole]
    · rw [if_neg whole]
  | _ => cases admitted

theorem conforms_list (key : String) (conforms : payload.conforms fields = true)
    (mem : required key .list ∈ fields) :
    ∃ items, payload.get? key = some (.arr items) := by
  obtain ⟨value, found, admitted⟩ := conforms_present conforms mem
  cases value <;> first | exact ⟨_, found⟩ | cases admitted

theorem text_parsed (found : payload.get? key = some (.str text_)) :
    (payload.parsed toNumber).get? key = some ((Json.str text_).parsed toNumber) := by
  rw [parsed_get, found]
  rfl

theorem has_text_parsed (found : payload.get? key = some (.str text_)) :
    (payload.parsed toNumber).hasText key = true := by
  rw [Json.hasText, parsed_get, found]
  rfl

theorem has_array_parsed {items : List Json} (found : payload.get? key = some (.arr items)) :
    (payload.parsed toNumber).hasArray key = true := by
  rw [Json.hasArray, parsed_get, found]
  rfl

theorem conforms_record_parsed (conforms : payload.conforms fields = true) :
    (payload.parsed toNumber).isRecord = true := by
  cases payload with
  | obj entries => rfl
  | _ => cases conforms

end

/-- Two trace items with the same properties; one that is missing reads as `null`. -/
def SameItem (left right : Json) : Prop := ∀ key, left.property key = right.property key

def EventRow.isPlan (row : EventRow Hash) : Bool :=
  row.sseType? = some .planSnapshot || row.sseType? = some .planPatch

/-- An empty plan without a version, which `withRunPlan` passes over. -/
def EventRow.passedOver (toNumber : Int → Int) (row : EventRow Hash) : Bool :=
  let data := row.payload.parsed toNumber
  row.isPlan && ((data.property "items").elements.isEmpty && !(data.property "version").truthy)

inductive Agreement (toNumber : Int → Int) (text : PyText) (row : EventRow Hash) : Prop
  | silent : row.isPlan = false →
      (∀ transcript : Transcript, transcript.display toNumber row = transcript) →
      (∀ fold next, foldOutput text fold row.eventType row.payload = .ok next →
        next.content = fold.content ∧ next.trace = fold.trace) →
      Agreement toNumber text row
  | prose (md : String) : row.isPlan = false →
      (∀ transcript : Transcript, transcript.display toNumber row =
        { transcript with content := transcript.content ++ md }) →
      (∀ fold, foldOutput text fold row.eventType row.payload =
        .ok { fold with content := fold.content ++ [md] }) →
      Agreement toNumber text row
  | item (shown stored : Json) : row.isPlan = false → isPlanKind (traceKind stored) = false →
      SameItem shown (stored.parsed toNumber) →
      (∀ transcript : Transcript, transcript.display toNumber row =
        { transcript with trace := transcript.trace ++ [shown] }) →
      (∀ fold, foldOutput text fold row.eventType row.payload =
        .ok { fold with trace := appendTraceItem fold.trace stored }) →
      Agreement toNumber text row
  | plan (version items : Json) (projectId : Option Json) (kind : String) (stored : Json) :
      row.isPlan = true → isPlanKind (traceKind stored) = true →
      row.passedOver toNumber = (items.elements.isEmpty && !version.truthy) →
      SameItem (runPlanItem kind version items projectId) (stored.parsed toNumber) →
      (∀ transcript : Transcript, transcript.display toNumber row =
        { transcript with
          trace := withRunPlan transcript.trace version items projectId kind }) →
      (∀ fold, foldOutput text fold row.eventType row.payload =
        .ok { fold with trace := appendTraceItem fold.trace stored }) →
      Agreement toNumber text row

def SSEType.name : SSEType → String
  | .session => "session"
  | .status => "status"
  | .run => "run"
  | .think => "think"
  | .step => "step"
  | .fileRead => "file_read"
  | .diff => "diff"
  | .todo => "todo"
  | .planSnapshot => "plan_snapshot"
  | .planPatch => "plan_patch"
  | .text => "text"
  | .askUser => "ask_user"
  | .qaSummary => "qa_summary"
  | .contextDegraded => "context_degraded"
  | .artifact => "artifact"
  | .workItem => "work_item"
  | .usage => "usage"
  | .error => "error"
  | .done => "done"

theorem sse_type_name {name : String} {type : SSEType} (known : sseType? name = some type) :
    name = type.name := by
  unfold sseType? at known
  split at known <;> cases known <;> rfl

theorem remove_ui (type : String) : removeUiPrefix ("ui." ++ type) = type := by
  have found : afterPrefix? "ui." ("ui." ++ type) = some type := after_prefix_eq_some.mpr rfl
  rw [removeUiPrefix, found]
  rfl

variable {toNumber : Int → Int} {text : PyText} {row : EventRow Hash} {type : SSEType}

variable {eventType : String} {payload : Json} {fields : List InterfaceField}

theorem trace_item_none (unknown : sseType? (removeUiPrefix eventType) = none) :
    traceItem text eventType payload = .ok none := by
  unfold traceItem
  split <;> first | rfl | (next same => rw [same] at unknown; cases unknown)

theorem fold_output_untraced {fold next : OutputFold}
    (other : eventType ≠ "ui.text" ∧ eventType ≠ "ui.usage" ∧ eventType ≠ "ui.error")
    (untraced : traceItem text eventType payload = .ok none)
    (done : foldOutput text fold eventType payload = .ok next) : next = fold := by
  unfold foldOutput at done
  rw [if_neg other.1, if_neg other.2.1, if_neg other.2.2, untraced] at done
  cases done
  rfl

theorem fold_output_unknown {fold next : OutputFold}
    (unknown : sseType? (removeUiPrefix eventType) = none)
    (done : foldOutput text fold eventType payload = .ok next) : next = fold := by
  have other (name : String) (known : (sseType? name).isSome = true) :
      eventType ≠ "ui." ++ name := by
    rintro rfl
    rw [remove_ui] at unknown
    rw [unknown] at known
    cases known
  have notText : eventType ≠ "ui.text" := other "text" rfl
  have notUsage : eventType ≠ "ui.usage" := other "usage" rfl
  have notError : eventType ≠ "ui.error" := other "error" rfl
  exact fold_output_untraced ⟨notText, notUsage, notError⟩ (trace_item_none unknown) done

theorem display_checked (named : row.eventType = "ui." ++ type.name)
    (known : sseType? type.name = some type)
    (valid : ((row.payload.parsed toNumber).isRecord &&
      type.valid (row.payload.parsed toNumber)) = true) (transcript : Transcript) :
    transcript.display toNumber row =
      transcript.fold (.checked type (row.payload.parsed toNumber)) := by
  have found : afterPrefix? "ui." row.eventType = some type.name := after_prefix_eq_some.mpr named
  have event : clientEvent toNumber row = some (.checked type (row.payload.parsed toNumber)) := by
    rw [clientEvent, found]
    simp only
    rw [checkedSSEEvent, known]
    simp only
    rw [if_pos valid]
  rw [Transcript.display, event]
  rfl

theorem fold_output_item {fold : OutputFold} {payload item : Json}
    (other : eventType ≠ "ui.text" ∧ eventType ≠ "ui.usage" ∧ eventType ≠ "ui.error")
    (traced : traceItem text eventType payload = .ok (some item)) :
    foldOutput text fold eventType payload =
      .ok { fold with trace := appendTraceItem fold.trace item } := by
  unfold foldOutput
  rw [if_neg other.1, if_neg other.2.1, if_neg other.2.2, traced]
  rfl

theorem item_agreement (type : SSEType) {shown : Json} (stored : Json)
    (named : row.eventType = "ui." ++ type.name)
    (known : sseType? type.name = some type)
    (plain : type ≠ .planSnapshot ∧ type ≠ .planPatch)
    (valid : ((row.payload.parsed toNumber).isRecord &&
      type.valid (row.payload.parsed toNumber)) = true)
    (folded : ∀ transcript : Transcript,
      transcript.fold (.checked type (row.payload.parsed toNumber)) =
        { transcript with trace := transcript.trace ++ [shown] })
    (other : row.eventType ≠ "ui.text" ∧ row.eventType ≠ "ui.usage" ∧ row.eventType ≠ "ui.error")
    (traced : traceItem text row.eventType row.payload = .ok (some stored))
    (kind : isPlanKind (traceKind stored) = false)
    (same : SameItem shown (stored.parsed toNumber)) : Agreement toNumber text row := by
  have typed : row.sseType? = some type := by
    have found : afterPrefix? "ui." row.eventType = some type.name :=
      after_prefix_eq_some.mpr named
    rw [EventRow.sseType?, found]
    exact known
  apply Agreement.item shown stored ?_ kind same
  · intro transcript
    rw [display_checked named known valid, folded]
  · intro fold
    exact fold_output_item other traced
  · rw [EventRow.isPlan, typed]
    simp [plain.1, plain.2]

theorem same_item_of_eq {left right : Json} (same : left = right) : SameItem left right :=
  fun key => congrArg (Json.property key) same

theorem texts_agreement (type : SSEType) (kind : String) (keys : List String)
    (named : row.eventType = "ui." ++ type.name) (known : sseType? type.name = some type)
    (plain : type ≠ .planSnapshot ∧ type ≠ .planPatch)
    (conforms : row.payload.conforms (keys.map fun key => required key .text) = true)
    (valid : type.valid (row.payload.parsed toNumber) =
      keys.all fun key => (row.payload.parsed toNumber).hasText key)
    (folded : ∀ transcript : Transcript,
      transcript.fold (.checked type (row.payload.parsed toNumber)) =
        { transcript with trace := transcript.trace ++ [jsObject (("kind", some (.str kind)) ::
          keys.map fun key => (key, (row.payload.parsed toNumber).get? key))] })
    (other : row.eventType ≠ "ui.text" ∧ row.eventType ≠ "ui.usage" ∧ row.eventType ≠ "ui.error")
    (traced : traceItem text row.eventType row.payload = .ok (some (.obj (("kind", .str kind) ::
        keys.map fun key => (key, .str (row.payload.strField text key))))))
    (notPlan : isPlanKind kind = false) : Agreement toNumber text row := by
  have found (key : String) (mem : key ∈ keys) :
      ∃ value, row.payload.get? key = some (.str value) :=
    conforms_text key conforms (List.mem_map.mpr ⟨key, mem, rfl⟩)
  apply item_agreement type _ named known plain ?_ folded other traced notPlan
  · apply same_item_of_eq
    have fields : ∀ keys : List String,
        (∀ key ∈ keys, ∃ value, row.payload.get? key = some (.str value)) →
        (keys.map fun key => (key, (row.payload.parsed toNumber).get? key)).filterMap
          (fun field => field.2.map fun value => (field.1, value)) =
        Json.parsedFields toNumber
          (keys.map fun key => (key, .str (row.payload.strField text key))) := by
      intro keys found
      induction keys with
      | nil => rfl
      | cons key rest ih =>
        obtain ⟨value, read⟩ := found key mem_cons_self
        have later := ih fun other mem => found other (mem_cons_of_mem key mem)
        rw [map_cons, map_cons, Json.parsedFields, ← later, parsed_get, read, str_field_text read]
        rfl
    rw [Json.parsed, Json.parsedFields, ← fields keys found]
    rfl
  · rw [conforms_record_parsed conforms, valid, Bool.true_and]
    apply List.all_eq_true.mpr
    intro key mem
    obtain ⟨value, read⟩ := found key mem
    exact has_text_parsed read

theorem qa_agreement (named : row.eventType = "ui.qa_summary")
    (conforms : row.payload.conforms [required "qa" .list] = true) :
    Agreement toNumber text row := by
  obtain ⟨pairs, found⟩ := conforms_list "qa" conforms mem_cons_self
  apply item_agreement .qaSummary _ named rfl (by decide) ?_ (fun _ => rfl) (by rw [named]; decide)
  · rw [named, traceItem,
      show removeUiPrefix "ui.qa_summary" = "qa_summary" from remove_ui "qa_summary"]
    rfl
  · rfl
  · apply same_item_of_eq
    rw [parsed_get, found, Json.listField, found]
    rfl
  · rw [conforms_record_parsed conforms]
    exact has_array_parsed found

theorem artifact_agreement (named : row.eventType = "ui.artifact")
    (conforms : row.payload.conforms fields = true)
    (texts : required "name" .text ∈ fields ∧ required "size" .text ∈ fields ∧
      required "path" .text ∈ fields) : Agreement toNumber text row := by
  obtain ⟨name, nameFound⟩ := conforms_text "name" conforms texts.1
  obtain ⟨size, sizeFound⟩ := conforms_text "size" conforms texts.2.1
  obtain ⟨path, pathFound⟩ := conforms_text "path" conforms texts.2.2
  apply item_agreement .artifact _ named rfl (by decide) ?_ (fun _ => rfl) (by rw [named]; decide)
  · rw [named, traceItem, show removeUiPrefix "ui.artifact" = "artifact" from remove_ui "artifact"]
    rfl
  · rfl
  · exact same_item_of_eq rfl
  · rw [conforms_record_parsed conforms, SSEType.valid, has_text_parsed nameFound,
      has_text_parsed sizeFound, has_text_parsed pathFound]
    rfl

theorem text_agreement (named : row.eventType = "ui.text")
    (conforms : row.payload.conforms [required "md" .text] = true) :
    Agreement toNumber text row := by
  obtain ⟨md, found⟩ := conforms_text "md" conforms mem_cons_self
  have valid : ((row.payload.parsed toNumber).isRecord &&
      SSEType.text.valid (row.payload.parsed toNumber)) = true := by
    rw [conforms_record_parsed conforms]
    exact has_text_parsed found
  apply Agreement.prose md
  · rw [EventRow.isPlan, EventRow.sseType?, named]
    decide
  · intro transcript
    rw [display_checked named rfl valid]
    have shown : (row.payload.parsed toNumber).textAt "md" = md := by
      rw [Json.textAt, parsed_get, found]
      rfl
    rw [← shown]
    rfl
  · intro fold
    rw [foldOutput, if_pos named, str_field_text found]

theorem spread_same {kind : String} {entries : List (String × Json)} {data : Json}
    (listed : ∀ entry ∈ entries, data.get? entry.1 = some (entry.2.parsed toNumber))
    (others : ∀ key, (∀ entry ∈ entries, entry.1 ≠ key) → data.get? key = none)
    (noKind : ∀ entry ∈ entries, entry.1 ≠ "kind") :
    SameItem (data.spread [("kind", .str kind)])
      ((Json.obj (("kind", .str kind) :: entries)).parsed toNumber) := by
  intro key
  rw [Json.property, Json.property, Json.spread_get, parsed_get]
  by_cases isKind : key = "kind"
  · subst isKind
    rw [others "kind" noKind]
    rfl
  · have notKind : ("kind" = key) = False := eq_false (Ne.symm isKind)
    have past : (Json.obj (("kind", .str kind) :: entries)).get? key =
        (Json.obj entries).get? key := by
      simp [Json.get?, notKind]
    have base : (Json.obj [("kind", .str kind)]).get? key = none := by
      simp [Json.get?, notKind]
    rw [past, base, or_none]
    cases found : entries.find? fun entry => entry.1 = key with
    | none =>
      rw [find?_eq_none] at found
      have missing := others key fun entry mem same => found entry mem (by simp [same])
      rw [missing]
      simp [Json.get?, find?_eq_none.mpr found]
    | some entry =>
      have mem := mem_of_find?_eq_some found
      have matched := find?_some found
      have name : entry.1 = key := of_decide_eq_true matched
      have read := listed entry mem
      rw [name] at read
      rw [read, Json.get?, found]
      rfl

theorem count_field (toNumber : Int → Int) (text : PyText) (key : String)
    (conforms : row.payload.conforms fields = true) (mem : required key .number ∈ fields)
    (typed : row.sseType? = some type) (counted : key ∈ type.counts)
    (integral : row.integral = true) :
    ∃ count, row.payload.intField text key = some count ∧
      (row.payload.parsed toNumber).hasNumber key = true ∧
      (row.payload.parsed toNumber).get? key = some ((Json.int count).parsed toNumber) := by
  obtain ⟨value, found, number⟩ := conforms_number toNumber key conforms mem
  rw [EventRow.integral, typed] at integral
  have whole := List.all_eq_true.mp integral key counted
  rw [found] at whole
  obtain ⟨count, read, same⟩ := int_field_integral toNumber text found whole
  refine ⟨count, read, number, ?_⟩
  rw [parsed_get, found, same]
  rfl

theorem diff_agreement (named : row.eventType = "ui.diff")
    (conforms : row.payload.conforms [required "op" .text, required "file" .text,
      required "add" .number, required "del" .number] = true)
    (integral : row.integral = true) : Agreement toNumber text row := by
  have typed : row.sseType? = some .diff := by
    rw [EventRow.sseType?, named]
    decide
  obtain ⟨op, opFound⟩ := conforms_text "op" conforms (by decide)
  obtain ⟨file, fileFound⟩ := conforms_text "file" conforms (by decide)
  obtain ⟨added, addField, addNumber, addParsed⟩ :=
    count_field toNumber text "add" conforms (by decide) typed (by decide) integral
  obtain ⟨deleted, delField, delNumber, delParsed⟩ :=
    count_field toNumber text "del" conforms (by decide) typed (by decide) integral
  have listed : ∀ entry ∈ [("op", Json.str op), ("file", .str file), ("add", .int added),
      ("del", .int deleted)], (row.payload.parsed toNumber).get? entry.1 =
        some (entry.2.parsed toNumber) := by
    simp [text_parsed opFound, text_parsed fileFound, addParsed, delParsed]
  apply item_agreement .diff (.obj [("kind", .str "diff"), ("op", .str op), ("file", .str file),
    ("add", .int added), ("del", .int deleted)]) named rfl (by decide) ?_ (fun _ => rfl)
    (by rw [named]; decide)
  · rw [named, traceItem, show removeUiPrefix "ui.diff" = "diff" from remove_ui "diff"]
    simp only [addField, delField, str_field_text opFound, str_field_text fileFound]
    rfl
  · rfl
  · apply spread_same listed
    · intro key other
      rw [parsed_get, conforms_other key conforms]
      · rfl
      · simpa [required] using other
    · simp
  · rw [conforms_record_parsed conforms, SSEType.valid, has_text_parsed opFound,
      has_text_parsed fileFound, addNumber, delNumber]
    rfl

theorem context_agreement (named : row.eventType = "ui.context_degraded")
    (conforms : row.payload.conforms [required "reason" .text,
      required "excerpt_messages" .number, required "retry_on_next_turn" .yes] = true)
    (integral : row.integral = true) : Agreement toNumber text row := by
  have typed : row.sseType? = some .contextDegraded := by
    rw [EventRow.sseType?, named]
    decide
  obtain ⟨reason, reasonFound⟩ := conforms_text "reason" conforms (by decide)
  obtain ⟨excerpts, excerptField, excerptNumber, excerptParsed⟩ :=
    count_field toNumber text "excerpt_messages" conforms (by decide) typed (by decide) integral
  have retryFound : row.payload.get? "retry_on_next_turn" = some (.bool true) := by
    have mem : required "retry_on_next_turn" .yes ∈ [required "reason" .text,
        required "excerpt_messages" .number, required "retry_on_next_turn" .yes] := by decide
    have admitted := conforms_field conforms mem
    simp only [required, InterfaceField.admits] at admitted
    split at admitted
    · next value found =>
      rw [found]
      cases value <;> first | cases admitted | skip
      next flag => cases flag <;> first | rfl | cases admitted
    · cases admitted
  have retryParsed : (row.payload.parsed toNumber).get? "retry_on_next_turn" =
      some ((Json.bool true).parsed toNumber) := by
    rw [parsed_get, retryFound]
    rfl
  have listed : ∀ entry ∈ [("reason", Json.str reason), ("excerpt_messages", .int excerpts),
      ("retry_on_next_turn", .bool true)], (row.payload.parsed toNumber).get? entry.1 =
        some (entry.2.parsed toNumber) := by
    simp [text_parsed reasonFound, excerptParsed, retryParsed]
  apply item_agreement .contextDegraded (.obj [("kind", .str "context_degraded"),
    ("reason", .str reason), ("excerpt_messages", .int excerpts),
    ("retry_on_next_turn", .bool true)]) named rfl (by decide) ?_ (fun _ => rfl)
    (by rw [named]; decide)
  · rw [named, traceItem, show removeUiPrefix "ui.context_degraded" = "context_degraded" from
      remove_ui "context_degraded"]
    simp only [excerptField, str_field_text reasonFound]
    rfl
  · rfl
  · apply spread_same listed
    · intro key other
      rw [parsed_get, conforms_other key conforms]
      · rfl
      · simpa [required] using other
    · simp
  · rw [conforms_record_parsed conforms, SSEType.valid, has_text_parsed reasonFound,
      excerptNumber, retryParsed]
    rfl

theorem plan_item_same {kind : String} {version items : Json} (project : Option Json) :
    SameItem (runPlanItem kind (version.parsed toNumber) (items.parsed toNumber)
        (project.map (Json.parsed toNumber)))
      ((Json.obj [("kind", .str kind), ("version", version), ("items", items),
        ("project_id", project.getD .null)]).parsed toNumber) := by
  cases project with
  | some projectId => exact same_item_of_eq rfl
  | none =>
    intro key
    by_cases isProject : key = "project_id"
    · subst isProject
      rfl
    · have notProject : ("project_id" = key) = False := eq_false (Ne.symm isProject)
      simp [Json.property, runPlanItem, jsObject, Json.get?, Json.parsed, Json.parsedFields,
        find?_cons, notProject]

theorem plan_agreement (type : SSEType) (plan : type = .planSnapshot ∨ type = .planPatch)
    (named : row.eventType = "ui." ++ type.name)
    (conforms : row.payload.conforms planInterface = true) (integral : row.integral = true) :
    Agreement toNumber text row := by
  have known : sseType? type.name = some type := by
    rcases plan with rfl | rfl <;> rfl
  have typed : row.sseType? = some type := by
    have found : afterPrefix? "ui." row.eventType = some type.name :=
      after_prefix_eq_some.mpr named
    rw [EventRow.sseType?, found]
    exact known
  have isPlan : row.isPlan = true := by
    rw [EventRow.isPlan, typed]
    rcases plan with rfl | rfl <;> decide
  have counted : "version" ∈ type.counts := by
    rcases plan with rfl | rfl <;> decide
  obtain ⟨version, versionField, versionNumber, versionParsed⟩ :=
    count_field toNumber text "version" conforms (by decide) typed counted integral
  obtain ⟨items, itemsFound⟩ := conforms_list "items" conforms (by decide)
  have versionShown : (row.payload.parsed toNumber).property "version" =
      (Json.int version).parsed toNumber := by
    rw [Json.property, versionParsed]
    rfl
  have itemsShown : (row.payload.parsed toNumber).property "items" =
      (Json.arr items).parsed toNumber := by
    rw [Json.property, parsed_get, itemsFound]
    rfl
  have valid : ((row.payload.parsed toNumber).isRecord &&
      type.valid (row.payload.parsed toNumber)) = true := by
    rw [conforms_record_parsed conforms]
    rcases plan with rfl | rfl <;>
      rw [SSEType.valid, versionNumber, has_array_parsed itemsFound] <;> rfl
  apply Agreement.plan ((row.payload.parsed toNumber).property "version")
    ((row.payload.parsed toNumber).property "items")
    ((row.payload.parsed toNumber).get? "project_id") type.name
    (.obj [("kind", .str type.name), ("version", .int version), ("items", .arr items),
      ("project_id", (row.payload.get? "project_id").getD .null)]) isPlan
  · rcases plan with rfl | rfl <;> rfl
  · rw [EventRow.passedOver, isPlan, Bool.true_and]
  · rw [versionShown, itemsShown, parsed_get]
    exact plan_item_same _
  · intro transcript
    rw [display_checked named known valid]
    rcases plan with rfl | rfl <;> rfl
  · intro fold
    apply fold_output_item
    · rw [named]
      rcases plan with rfl | rfl <;> decide
    · rw [named, traceItem, remove_ui]
      rcases plan with rfl | rfl <;>
        simp only [SSEType.name, versionField, Json.listField, itemsFound] <;> rfl

theorem ask_user_silent (transcript : Transcript) (data : Json) :
    (checkedSSEEvent "ask_user" data).toList.foldl Transcript.fold transcript = transcript := by
  rw [checkedSSEEvent]
  simp only [sseType?]
  split <;> rfl

theorem other_agreement (bare : afterPrefix? "ui." row.eventType = none)
    (unknown : sseType? row.eventType = none) : Agreement toNumber text row := by
  apply Agreement.silent
  · rw [EventRow.isPlan, EventRow.sseType?, bare]
    rfl
  · intro transcript
    rw [Transcript.display, clientEvent, bare]
    simp only
    split
    · exact ask_user_silent transcript _
    · rfl
  · intro fold next done
    have untraced : sseType? (removeUiPrefix row.eventType) = none := by
      rw [removeUiPrefix, bare]
      exact unknown
    rw [fold_output_unknown untraced done]
    exact ⟨rfl, rfl⟩

theorem unknown_agreement {name : String} (found : afterPrefix? "ui." row.eventType = some name)
    (unknown : sseType? name = none) : Agreement toNumber text row := by
  apply Agreement.silent
  · rw [EventRow.isPlan, EventRow.sseType?, found, bind_some, unknown]
    rfl
  · intro transcript
    rw [Transcript.display, clientEvent, found]
    simp only
    rw [checkedSSEEvent, unknown]
    rfl
  · intro fold next done
    have untraced : sseType? (removeUiPrefix row.eventType) = none := by
      rw [removeUiPrefix, found]
      exact unknown
    rw [fold_output_unknown untraced done]
    exact ⟨rfl, rfl⟩

theorem silent_agreement (type : SSEType) (named : row.eventType = "ui." ++ type.name)
    (silent : type.interface? = none) : Agreement toNumber text row := by
  have known : sseType? type.name = some type := by
    cases type <;> rfl
  have found : afterPrefix? "ui." row.eventType = some type.name :=
    after_prefix_eq_some.mpr named
  apply Agreement.silent
  · rw [EventRow.isPlan, EventRow.sseType?, found, bind_some, known]
    cases type <;> first | rfl | cases silent
  · intro transcript
    rw [Transcript.display, clientEvent, found]
    simp only
    rw [checkedSSEEvent, known]
    simp only
    split
    · cases type <;> first | rfl | cases silent
    · rfl
  · intro fold next done
    by_cases usage : type = .usage
    · subst usage
      rw [named, foldOutput, if_neg (by decide), if_pos (by decide)] at done
      obtain ⟨prompt, -, done⟩ := Rollback.bind_ok done
      obtain ⟨completion, -, done⟩ := Rollback.bind_ok done
      cases done
      exact ⟨rfl, rfl⟩
    by_cases error : type = .error
    · subst error
      rw [named, foldOutput, if_neg (by decide), if_neg (by decide), if_pos (by decide)] at done
      cases done
      exact ⟨rfl, rfl⟩
    have untraced : traceItem text row.eventType row.payload = .ok none := by
      rw [named, traceItem, remove_ui]
      cases type <;> first | rfl | cases silent
    have kept := fold_output_untraced ?_ untraced done
    · rw [kept]
      exact ⟨rfl, rfl⟩
    · rw [named]
      cases type <;> first | decide | exact absurd rfl usage | exact absurd rfl error | cases silent

theorem row_agreement (typed : row.wellTyped = true) (integral : row.integral = true) :
    Agreement toNumber text row := by
  rw [EventRow.wellTyped] at typed
  cases found : afterPrefix? "ui." row.eventType with
  | none =>
    rw [found] at typed
    exact other_agreement found (isNone_iff_eq_none.mp typed)
  | some name =>
    rw [found] at typed
    cases known : sseType? name with
    | none => exact unknown_agreement found known
    | some type =>
      have named : row.eventType = "ui." ++ type.name := by
        rw [← sse_type_name known]
        exact after_prefix_eq_some.mp found
      simp only [known, bind_some] at typed
      cases type with
      | think =>
        apply texts_agreement .think "think" ["text"] named rfl (by decide) typed
          (by simp [SSEType.valid]) (fun _ => rfl) (by rw [named]; decide) ?_ (by decide)
        rw [named, traceItem, remove_ui]
        rfl
      | todo =>
        apply texts_agreement .todo "todo" ["text"] named rfl (by decide) typed
          (by simp [SSEType.valid]) (fun _ => rfl) (by rw [named]; decide) ?_ (by decide)
        rw [named, traceItem, remove_ui]
        rfl
      | step =>
        apply texts_agreement .step "step" ["tool", "label"] named rfl (by decide) typed
          (by simp [SSEType.valid]) (fun _ => rfl) (by rw [named]; decide) ?_ (by decide)
        rw [named, traceItem, remove_ui]
        rfl
      | fileRead =>
        apply texts_agreement .fileRead "file_read" ["path", "range"] named rfl (by decide)
          typed (by simp [SSEType.valid]) (fun _ => rfl) (by rw [named]; decide) ?_
          (by decide)
        rw [named, traceItem, remove_ui]
        rfl
      | diff => exact diff_agreement named typed integral
      | planSnapshot => exact plan_agreement .planSnapshot (Or.inl rfl) named typed integral
      | planPatch => exact plan_agreement .planPatch (Or.inr rfl) named typed integral
      | text => exact text_agreement named typed
      | qaSummary => exact qa_agreement named typed
      | contextDegraded => exact context_agreement named typed integral
      | artifact => exact artifact_agreement named typed (by decide)
      | _ => exact silent_agreement _ named rfl

end AgentMate
