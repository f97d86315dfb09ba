import AgentMate.Base64
import AgentMate.JsonText
import AgentMate.KeysetPaging
import AgentMate.RoundedDoubles
import Mathlib.Data.Prod.Lex

/-!
# Scoped lists of business records

`list_scoped` of `business_store.py` with its cursors. A cursor is the JSON text of the last
row's sort value and id in URL-safe base64; it is read back as a float and a text. A sequence
number above `2 ^ 53` need not be a float: then the position that is read back is another one.
-/

namespace AgentMate

open KeysetPaging RoundedDoubles List Option

/-- A value as `sqlite3` gives it. -/
inductive SqlValue where
  | null
  | integer (value : Int)
  | real (value : PyFloat)
  | text (value : String)
  deriving DecidableEq

/-- A row of a business table: the columns that a query reads, and the columns of the row as
`dict(row)` gives them. A column that a table does not have is not looked at. -/
structure ScopedRow (Column : Type) where
  id : String
  ownerId : String
  projectId : Option String
  sessionId : Option String
  runId : Option String
  assistantId : Option String
  workItemId : Option String
  sequence : Int
  createdAt : PyFloat
  updatedAt : PyFloat
  deletedAt : PyFloat
  columns : List (String × Column)
  deriving DecidableEq

structure Membership where
  projectId : String
  accountId : String

structure ScopedDatabase where
  rows : String → List (ScopedRow SqlValue)
  /-- Ids and owners of the rows of `projects`. -/
  projects : List (String × String)
  members : List Membership
  unique : ∀ table, ((rows table).map ScopedRow.id).Nodup

/-- What the module takes from the interpreter: `str()`, `json`'s floats, `float()` of a text. -/
structure CursorHost extends PyText where
  floats : FloatText
  floatOf : String → Option PyFloat

inductive ListError where
  | unsupportedTable (table : String)
  | unsupportedOrderColumn
  | unsupportedParentColumn
  | invalidCursor
  | overflow
  | noSuchColumn
  deriving DecidableEq

inductive OrderValue where
  | real (value : PyFloat)
  | integer (value : Int)

def OrderValue.value : OrderValue → ℚ
  | real value => value.value
  | integer value => value

def OrderValue.json : OrderValue → Json
  | real value => .float value
  | integer value => .int value

/-- `float(value)` of an `int`; `none` is the `OverflowError`. -/
def floatOfInt (value : Int) : Option PyFloat :=
  let rounded := roundDouble value.natAbs
  if 1024 ≤ rounded.log2 then none
  else some (.number (if value < 0 then -(rounded : ℚ) else rounded))

section

variable (host : CursorHost)

def encodeCursor (value : OrderValue) (recordId : String) : String :=
  let raw := (jsonDumpsUnsorted host.floats (.arr [value.json, .str recordId])).toUTF8
  String.ofList ((Base64.urlsafeEncode raw.data.toList).rdropWhile (· = '='))

/-- `float(value)` of a decoded value. -/
def cursorValue : Json → Except ListError PyFloat
  | .float value => .ok value
  | .int value => (floatOfInt value).elim (.error .overflow) .ok
  | .bool value => .ok (.number (if value then 1 else 0))
  | .str value => (host.floatOf value).elim (.error .invalidCursor) .ok
  | _ => .error .invalidCursor

/-- `value, record_id = decoded`. -/
def unpackPair : Json → Option (Json × Json)
  | .arr [value, recordId] => some (value, recordId)
  | .obj [value, recordId] => some (.str value.1, .str recordId.1)
  | .str text =>
    match text.toList with
    | [value, recordId] => some (.str value.toString, .str recordId.toString)
    | _ => none
  | _ => none

def cursorPair (cursor : List Char) : Option (Json × Json) :=
  (Base64.urlsafeDecode (cursor ++ Base64.padding cursor.length)).bind fun raw =>
    (String.fromUTF8? (ByteArray.mk raw.toArray)).bind fun text =>
      (jsonLoads host.floats text).bind unpackPair

def decodeCursor (cursor : String) : Except ListError (Option (PyFloat × String)) :=
  if cursor = "" then .ok none
  else
    match cursorPair host cursor.toList with
    | none => .error .invalidCursor
    | some pair => (cursorValue host pair.1).map fun value =>
      some (value, pair.2.pyStr host.toPyText)

end

structure ListRequest where
  table : String
  accountId : String
  projectId : Option String
  limit : Nat
  parent : Option (String × String)
  orderColumn : String
  ascending : Bool

def businessTables : List String :=
  ["business_sessions", "business_messages", "business_runs", "business_run_steps",
    "business_assistants", "business_channels", "business_automations", "business_assets"]

/-- Tables whose rows are never marked as deleted. -/
def keptTables : List String := ["business_messages", "business_run_steps"]

def tableColumns (table : String) : List String :=
  if table = "business_sessions" ∨ table = "business_assistants" ∨
      table = "business_automations" then
    ["project_id", "created_at", "updated_at", "deleted_at"]
  else if table = "business_runs" then
    ["session_id", "project_id", "work_item_id", "created_at", "updated_at", "deleted_at"]
  else if table = "business_messages" then ["session_id", "run_id", "sequence", "created_at"]
  else if table = "business_run_steps" then ["run_id", "sequence", "created_at"]
  else if table = "business_channels" then
    ["assistant_id", "created_at", "updated_at", "deleted_at"]
  else ["project_id", "session_id", "run_id", "created_at", "updated_at", "deleted_at"]

def ListRequest.queriedColumns (request : ListRequest) : List String :=
  (if request.table ∈ keptTables then [] else ["deleted_at"]) ++
    [request.parent.elim "project_id" Prod.fst, request.orderColumn]

section

variable {Column : Type} (row : ScopedRow Column)

def ScopedRow.parent? (column : String) : Option String :=
  if column = "session_id" then row.sessionId
  else if column = "run_id" then row.runId
  else if column = "assistant_id" then row.assistantId
  else row.workItemId

def ScopedRow.orderValue (column : String) : OrderValue :=
  if column = "sequence" then .integer row.sequence
  else if column = "created_at" then .real row.createdAt
  else .real row.updatedAt

end

def jsonColumns : List String :=
  ["trace", "usage", "model_snapshot", "plan", "permission_snapshot", "checkpoint",
    "required_capabilities", "request_snapshot", "payload", "experts", "skills", "connectors",
    "public_config", "preauthorized_permissions", "validation", "details"]

def SqlValue.json : SqlValue → Json
  | null => .null
  | integer value => .int value
  | real value => .float value
  | text value => .str value

/-- A column of `decode_row`; an unreadable JSON text becomes `None`. -/
def decodeColumn (floats : FloatText) (column : String × SqlValue) : String × Json :=
  if column.1 ∈ jsonColumns then
    match column.2 with
    | .text value => (column.1, (jsonLoads floats value).getD .null)
    | _ => (column.1, .null)
  else if column.1 = "enabled" then (column.1, .bool column.2.json.truthy)
  else (column.1, column.2.json)

def decodeRow (floats : FloatText) (row : ScopedRow SqlValue) : ScopedRow Json :=
  { row with
    columns := (row.columns.filter fun column => column.1 ≠ "request_hash").map
      (decodeColumn floats) }

section

variable (host : CursorHost) (database : ScopedDatabase) (request : ListRequest)

/-- The conditions of the query but the one on the cursor. -/
def inScope (row : ScopedRow SqlValue) : Bool :=
  (decide (request.table ∈ keptTables) || decide (row.deletedAt.value = 0)) &&
  (match request.parent with
    | some (column, value) => decide (row.parent? column = some value)
    | none =>
      match request.projectId.filter fun projectId => projectId ≠ "" with
      | some projectId => decide (row.projectId = some projectId)
      | none =>
        decide (row.projectId = none ∧ row.ownerId = request.accountId) ||
        database.projects.any fun project => decide (row.projectId = some project.1) &&
          (decide (project.2 = request.accountId) || database.members.any fun mem =>
            decide (mem.projectId = project.1 ∧ mem.accountId = request.accountId))) &&
  (decide (request.table ≠ "business_runs") ||
    (database.rows "business_sessions").any fun session =>
      decide (row.sessionId = some session.id ∧ session.deletedAt.value = 0))

def ListRequest.sortValue (row : ScopedRow SqlValue) : ℚ :=
  (row.orderValue request.orderColumn).value

/-- `t.{order_column}{op}? OR (t.{order_column}=? AND t.id{op}?)`. -/
def afterPosition (value : ℚ) (recordId : String) (row : ScopedRow SqlValue) : Bool :=
  if request.ascending then
    decide (value < request.sortValue row ∨ (request.sortValue row = value ∧ recordId < row.id))
  else
    decide (request.sortValue row < value ∨ (request.sortValue row = value ∧ row.id < recordId))

/-- `ORDER BY t.{order_column} {direction},t.id {direction}`. -/
def listedBefore (left right : ScopedRow SqlValue) : Bool :=
  if request.ascending then
    decide (request.sortValue left < request.sortValue right ∨
      (request.sortValue left = request.sortValue right ∧ left.id ≤ right.id))
  else
    decide (request.sortValue right < request.sortValue left ∨
      (request.sortValue right = request.sortValue left ∧ right.id ≤ left.id))

def sortRows (rows : List (ScopedRow SqlValue)) : List (ScopedRow SqlValue) :=
  rows.insertionSort fun left right => listedBefore request left right

def foundAfter (parsed : Option (PyFloat × String)) : List (ScopedRow SqlValue) :=
  sortRows request ((database.rows request.table).filter fun row =>
    inScope database request row &&
      parsed.elim true fun position => afterPosition request position.1.value position.2 row)

def listScoped (cursor : String) : Except ListError (List (ScopedRow Json) × String) :=
  if request.table ∉ businessTables then .error (.unsupportedTable request.table)
  else if request.orderColumn ∉ ["updated_at", "created_at", "sequence"] then
    .error .unsupportedOrderColumn
  else if (request.parent.map Prod.fst).any fun column =>
      column ∉ ["session_id", "run_id", "assistant_id", "work_item_id"] then
    .error .unsupportedParentColumn
  else
    (decodeCursor host cursor).bind fun parsed =>
      if request.queriedColumns.any fun column => column ∉ tableColumns request.table then
        .error .noSuchColumn
      else
        let result := page request.limit (foundAfter database request parsed)
        .ok (result.1.map (decodeRow host.floats), result.2.elim "" fun tail =>
          encodeCursor host (tail.orderValue request.orderColumn) tail.id)

def matching : List (ScopedRow SqlValue) :=
  (database.rows request.table).filter (inScope database request)

def SortsBefore (left right : ScopedRow SqlValue) : Prop :=
  listedBefore request left right = true ∧ left.id ≠ right.id

def positionOf (row : ScopedRow SqlValue) : String :=
  encodeCursor host (row.orderValue request.orderColumn) row.id

end

def OrderValue.read : OrderValue → Option PyFloat
  | real value => some value
  | integer value => floatOfInt value

def OrderValue.Exact (value : OrderValue) : Prop := value.read.map PyFloat.value = some value.value

theorem real_exact (value : PyFloat) : (OrderValue.real value).Exact := rfl

variable {host : CursorHost} {database : ScopedDatabase} {request : ListRequest}

theorem decode_utf8 (text : String) :
    String.fromUTF8? (ByteArray.mk text.toUTF8.data.toList.toArray) = some text := by
  have valid : (ByteArray.mk text.toUTF8.data).IsValidUTF8 := text.isValidUTF8
  rw [Array.toArray_toList, String.fromUTF8?, dif_pos valid]
  rfl

theorem cursor_pair_encode (lawful : host.floats.Lawful) (value : OrderValue) (recordId : String) :
    cursorPair host (encodeCursor host value recordId).toList =
      some (value.json, .str recordId) := by
  have written : jsonLoads host.floats
      (jsonDumpsUnsorted host.floats (.arr [value.json, .str recordId])) =
        some (.arr [value.json, .str recordId]) := by
    apply loads_dumps_unsorted lawful
    cases value <;> rfl
  rw [cursorPair, encodeCursor, String.toList_ofList, Base64.decode_stripped, bind_some,
    decode_utf8, bind_some, written]
  rfl

theorem encode_cursor_ne (lawful : host.floats.Lawful) (value : OrderValue) (recordId : String) :
    encodeCursor host value recordId ≠ "" := by
  intro empty
  have read := cursor_pair_encode lawful value recordId
  rw [empty] at read
  have nothing : cursorPair host "".toList = none := by
    have bytes : Base64.urlsafeDecode ("".toList ++ Base64.padding "".toList.length) =
        some "".toUTF8.data.toList := rfl
    rw [cursorPair, bytes, bind_some, decode_utf8]
    rfl
  rw [nothing] at read
  cases read

theorem decode_encode_cursor (lawful : host.floats.Lawful) {value : OrderValue} {read : PyFloat}
    (reads : value.read = some read) (recordId : String) :
    decodeCursor host (encodeCursor host value recordId) = .ok (some (read, recordId)) := by
  have float : cursorValue host value.json = .ok read := by
    cases value with
    | real value => exact congrArg Except.ok (Option.some.inj reads)
    | integer value =>
      have rounded : floatOfInt value = some read := reads
      rw [OrderValue.json, cursorValue, rounded]
      rfl
  rw [decodeCursor, if_neg (encode_cursor_ne lawful value recordId),
    cursor_pair_encode lawful value recordId]
  simp only [float]
  rfl

theorem list_scoped_ok {first : List (ScopedRow Json) × String}
    (answers : listScoped host database request "" = .ok first) {cursor : String}
    {parsed : Option (PyFloat × String)} (reads : decodeCursor host cursor = .ok parsed) :
    listScoped host database request cursor =
      .ok (answer (decodeRow host.floats) (positionOf host request) "" request.limit
        (foundAfter database request parsed)) := by
  have start : decodeCursor host "" = .ok none := if_pos rfl
  unfold listScoped at answers ⊢
  rw [start] at answers
  rw [reads]
  split at answers
  · cases answers
  next known =>
  split at answers
  · cases answers
  next ordered =>
  split at answers
  · cases answers
  next parent =>
  simp only [Except.bind] at answers ⊢
  split at answers
  · cases answers
  next columns =>
  rw [if_neg known, if_neg ordered, if_neg parent, if_neg columns]
  rfl

section

variable {Key : Type} [LinearOrder Key] {key : ScopedRow SqlValue → Key}

theorem sort_rows_perm (rows : List (ScopedRow SqlValue)) : (sortRows request rows).Perm rows :=
  perm_insertionSort _ rows

theorem sort_rows_sorted
    (listed : ∀ left right, listedBefore request left right = true ↔ key left ≤ key right)
    (rows : List (ScopedRow SqlValue)) :
    (sortRows request rows).Pairwise fun left right => key left ≤ key right := by
  have total : Std.Total fun left right => listedBefore request left right = true := by
    constructor
    intro left right
    simp only [listed]
    exact le_total _ _
  have trans : IsTrans _ fun left right => listedBefore request left right = true := by
    constructor
    intro first second third
    simp only [listed]
    exact le_trans
  have sorted := pairwise_insertionSort
    (fun left right => listedBefore request left right = true) rows
  exact sorted.imp fun before => (listed _ _).mp before

theorem enumerates_of_key (lawful : host.floats.Lawful) (positive : 0 < request.limit)
    (exact_values : ∀ row ∈ matching database request, (row.orderValue request.orderColumn).Exact)
    {first : List (ScopedRow Json) × String}
    (answers : listScoped host database request "" = .ok first)
    (listed : ∀ left right, listedBefore request left right = true ↔ key left ≤ key right)
    (later : ∀ row other, afterPosition request (request.sortValue row) row.id other =
      decide (key row < key other))
    (ids : ∀ left right, key left = key right → left.id = right.id) :
    (foundAfter database request none).Pairwise (SortsBefore request) ∧
      ∀ fuel, (foundAfter database request none).length < fuel →
        followPages (listScoped host database request) "" fuel "" =
          some ((foundAfter database request none).map (decodeRow host.floats)) := by
  have whole : foundAfter database request none = sortRows request (matching database request) := by
    simp only [foundAfter, matching, elim_none, Bool.and_true]
  have idsUnique : ((matching database request).map ScopedRow.id).Nodup :=
    (database.unique request.table).sublist (filter_sublist.map _)
  have unique : ((matching database request).map key).Nodup := by
    rw [List.Nodup, pairwise_map] at idsUnique ⊢
    exact idsUnique.imp fun differ same => differ (ids _ _ same)
  have perm : (sortRows request (matching database request)).Perm (matching database request) :=
    sort_rows_perm _
  have strict : (sortRows request (matching database request)).Pairwise
      fun left right => key left < key right :=
    sort_strict sort_rows_perm (sort_rows_sorted listed) unique
  have sortedIds := (perm.map ScopedRow.id).nodup_iff.mpr idsUnique
  rw [whole]
  constructor
  · exact strict.imp₂ (fun _ _ less differ => ⟨(listed _ _).mpr less.le, differ⟩)
      (pairwise_map.mp sortedIds)
  · intro fuel enough
    have proper (row : ScopedRow SqlValue) (_ : row ∈ sortRows request (matching database request)) :
        positionOf host request row ≠ "" :=
      encode_cursor_ne lawful _ _
    have fetched : listScoped host database request "" = .ok (answer (decodeRow host.floats)
        (positionOf host request) "" request.limit
        (sortRows request (matching database request))) := by
      have start : decodeCursor host "" = .ok none := if_pos rfl
      rw [list_scoped_ok answers start, whole]
    have nothing : sortRows request (matching database request) =
        [] ++ sortRows request (matching database request) := rfl
    apply follow_answer positive proper _ nothing fetched enough
    · intro before row after split
      have mem : row ∈ matching database request := by
        rw [← perm.mem_iff, split]
        simp
      obtain ⟨read, reads, same⟩ := map_eq_some_iff.mp (exact_values row mem)
      have rest : foundAfter database request (some (read, row.id)) = after := by
        rw [split] at strict
        rw [← filter_after strict, ← split,
          ← sort_filter sort_rows_perm (sort_rows_sorted listed) unique]
        simp only [foundAfter, matching, List.filter_filter, elim_some]
        congr 1
        apply filter_congr
        intro other _
        rw [same, ← later row other, Bool.and_comm]
        rfl
      rw [positionOf, list_scoped_ok answers (decode_encode_cursor lawful reads row.id), rest]

end

/-- `(t.{order_column}, t.id)`. -/
def ListRequest.rowKey (request : ListRequest) (row : ScopedRow SqlValue) : ℚ ×ₗ String :=
  toLex (request.sortValue row, row.id)

/-- Following the cursors from the first call returns every matching row once, in the sort order,
and the cursor of a row is read back as its position. -/
theorem list_scoped_enumerates (lawful : host.floats.Lawful) (positive : 0 < request.limit)
    (exact_values : ∀ row ∈ matching database request, (row.orderValue request.orderColumn).Exact)
    {first : List (ScopedRow Json) × String}
    (answers : listScoped host database request "" = .ok first) :
    (∀ row ∈ matching database request, ∃ value,
      decodeCursor host (encodeCursor host (row.orderValue request.orderColumn) row.id) =
        .ok (some (value, row.id)) ∧ value.value = request.sortValue row) ∧
    ∃ listing : List (ScopedRow SqlValue), listing.Perm (matching database request) ∧
      listing.Pairwise (SortsBefore request) ∧
      ∀ fuel, listing.length < fuel → followPages (listScoped host database request) "" fuel "" =
          some (listing.map (decodeRow host.floats)) := by
  constructor
  · intro row mem
    obtain ⟨read, reads, same⟩ := map_eq_some_iff.mp (exact_values row mem)
    exact ⟨read, decode_encode_cursor lawful reads row.id, same⟩
  · refine ⟨foundAfter database request none, ?_, ?_⟩
    · simp only [foundAfter, elim_none, Bool.and_true]
      exact sort_rows_perm _
    · cases direction : request.ascending with
      | true =>
        have listed (left right : ScopedRow SqlValue) :
            listedBefore request left right = true ↔ request.rowKey left ≤ request.rowKey right := by
          simp [listedBefore, direction, ListRequest.rowKey, Prod.Lex.toLex_le_toLex]
        apply enumerates_of_key lawful positive exact_values answers listed
        · intro row other
          have turned : request.sortValue other = request.sortValue row ↔
              request.sortValue row = request.sortValue other := eq_comm
          simp [afterPosition, direction, ListRequest.rowKey, Prod.Lex.toLex_lt_toLex, turned]
        · intro left right same
          exact congrArg Prod.snd (toLex.injective same)
      | false =>
        have listed (left right : ScopedRow SqlValue) : listedBefore request left right = true ↔
            OrderDual.toDual (request.rowKey left) ≤ OrderDual.toDual (request.rowKey right) := by
          simp [listedBefore, direction, ListRequest.rowKey, Prod.Lex.toLex_le_toLex]
        apply enumerates_of_key lawful positive exact_values answers listed
        · intro row other
          simp [afterPosition, direction, ListRequest.rowKey, Prod.Lex.toLex_lt_toLex]
        · intro left right same
          exact congrArg Prod.snd (toLex.injective (OrderDual.toDual_inj.mp same))

def plainCursors : CursorHost where
  dumps := jsonDumps ratioFloats
  strOf := jsonDumps ratioFloats
  intOf _ := none
  floats := ratioFloats
  floatOf _ := none

def ownedRow (id : String) (sequence : Int) (updatedAt deletedAt : ℚ) : ScopedRow SqlValue where
  id := id
  ownerId := "u"
  projectId := none
  sessionId := some "s"
  runId := none
  assistantId := none
  workItemId := none
  sequence := sequence
  createdAt := .number 1
  updatedAt := .number updatedAt
  deletedAt := .number deletedAt
  columns := [("id", .text id), ("request_hash", .text "h"), ("enabled", .integer 1)]

def tiedRows : List (ScopedRow SqlValue) :=
  [ownedRow "a" 0 5 0, ownedRow "b" 0 5 0, ownedRow "c" 0 7 2, ownedRow "d" 0 5 0]

theorem tied_unique : (tiedRows.map ScopedRow.id).Nodup := by decide

def tiedDatabase : ScopedDatabase where
  rows _ := tiedRows
  projects := []
  members := []
  unique _ := tied_unique

def sessionsRequest : ListRequest where
  table := "business_sessions"
  accountId := "u"
  projectId := none
  limit := 1
  parent := none
  orderColumn := "updated_at"
  ascending := false

theorem sessions_answered : listScoped plainCursors tiedDatabase sessionsRequest "" =
    .ok (answer (decodeRow ratioFloats) (positionOf plainCursors sessionsRequest) "" 1
      (foundAfter tiedDatabase sessionsRequest none)) := by
  have start : decodeCursor plainCursors "" = .ok none := if_pos rfl
  rw [listScoped, if_neg (by decide), if_neg (by decide), if_neg (by decide), start]
  simp only [Except.bind]
  rw [if_neg (by decide)]
  rfl

theorem tied_sessions_enumerated : (∀ row ∈ matching tiedDatabase sessionsRequest, ∃ value,
      decodeCursor plainCursors (encodeCursor plainCursors (row.orderValue "updated_at") row.id) =
        .ok (some (value, row.id)) ∧ value.value = sessionsRequest.sortValue row) ∧
    ∃ listing : List (ScopedRow SqlValue), listing.Perm (matching tiedDatabase sessionsRequest) ∧
      listing.Pairwise (SortsBefore sessionsRequest) ∧
      ∀ fuel, listing.length < fuel →
        followPages (listScoped plainCursors tiedDatabase sessionsRequest) "" fuel "" =
          some (listing.map (decodeRow ratioFloats)) := by
  have lawful : plainCursors.floats.Lawful := ratio_floats_lawful
  exact list_scoped_enumerates lawful Nat.one_pos (fun row _ => real_exact row.updatedAt)
    sessions_answered

def numberedRows : List (ScopedRow SqlValue) :=
  [ownedRow "a" (2 ^ 53) 1 0, ownedRow "b" (2 ^ 53 + 1) 1 0, ownedRow "c" (2 ^ 53 + 2) 1 0]

theorem numbered_unique : (numberedRows.map ScopedRow.id).Nodup := by decide

def numberedDatabase : ScopedDatabase where
  rows _ := numberedRows
  projects := []
  members := []
  unique _ := numbered_unique

def messagesRequest : ListRequest where
  table := "business_messages"
  accountId := "u"
  projectId := none
  limit := 2
  parent := some ("session_id", "s")
  orderColumn := "sequence"
  ascending := true

theorem messages_answered : listScoped plainCursors numberedDatabase messagesRequest "" =
    .ok (answer (decodeRow ratioFloats) (positionOf plainCursors messagesRequest) "" 2
      (foundAfter numberedDatabase messagesRequest none)) := by
  have start : decodeCursor plainCursors "" = .ok none := if_pos rfl
  rw [listScoped, if_neg (by decide), if_neg (by decide), if_neg (by decide), start]
  simp only [Except.bind]
  rw [if_neg (by decide)]
  rfl

theorem large_number_repeated :
    (matching numberedDatabase messagesRequest).map ScopedRow.id = ["a", "b", "c"] ∧
    decodeCursor plainCursors (encodeCursor plainCursors (.integer (2 ^ 53 + 1)) "b") =
      .ok (some (.number (2 ^ 53), "b")) ∧
    (followPages (listScoped plainCursors numberedDatabase messagesRequest) "" 2 "").map
      (fun items => items.map ScopedRow.id) = some ["a", "b", "b", "c"] := by
  have rounded : (OrderValue.integer (2 ^ 53 + 1)).read = some (.number (2 ^ 53)) := by
    decide +kernel
  have read : decodeCursor plainCursors (encodeCursor plainCursors (.integer (2 ^ 53 + 1)) "b") =
      .ok (some (.number (2 ^ 53), "b")) := decode_encode_cursor ratio_floats_lawful rounded "b"
  have all : foundAfter numberedDatabase messagesRequest none = numberedRows := by decide +kernel
  have again : foundAfter numberedDatabase messagesRequest (some (.number (2 ^ 53), "b")) =
      numberedRows.tail := by decide +kernel
  have cursor : encodeCursor plainCursors (.integer (2 ^ 53 + 1)) "b" ≠ "" :=
    encode_cursor_ne ratio_floats_lawful _ _
  have first : listScoped plainCursors numberedDatabase messagesRequest "" =
      .ok ((numberedRows.take 2).map (decodeRow ratioFloats),
        encodeCursor plainCursors (.integer (2 ^ 53 + 1)) "b") := by
    rw [messages_answered, all]
    rfl
  have second : listScoped plainCursors numberedDatabase messagesRequest
      (encodeCursor plainCursors (.integer (2 ^ 53 + 1)) "b") =
        .ok (numberedRows.tail.map (decodeRow ratioFloats), "") := by
    rw [list_scoped_ok messages_answered read, again]
    rfl
  refine ⟨by decide +kernel, read, ?_⟩
  rw [followPages, first]
  simp only [if_neg cursor]
  rw [followPages, second]
  rfl

end AgentMate
