import AgentMate.JsonToken
import Mathlib.Data.List.Sort
import Mathlib.Data.String.Basic

/-!
# The text of a JSON value

`json.dumps(value, ensure_ascii=False, separators=(",", ":"))`, with and without
`sort_keys=True`, and `json.loads`. Reading what was written gives the value back; with
sorted keys it gives the value with its keys sorted, whose text is the same.
-/

namespace AgentMate

open List

def isSpace (char : Char) : Bool := char = ' ' || char = '\t' || char = '\n' || char = '\r'

def skipSpace (text : List Char) : List Char := text.dropWhile isSpace

/-- `dict[key] = value`. -/
def insertField (fields : List (String × Json)) (field : String × Json) : List (String × Json) :=
  if fields.any fun old => old.1 = field.1 then
    fields.map fun old => if old.1 = field.1 then field else old
  else fields ++ [field]

/-- `dict(pairs)`: of two pairs with one key the later counts. -/
def dictOf (pairs : List (String × Json)) : List (String × Json) := pairs.foldl insertField []

mutual

/-- `json.loads`; the text starts with no space, and `fuel` bounds its nesting. -/
def parseValue (floats : FloatText) : Nat → List Char → Option (Json × List Char)
  | 0, _ => none
  | fuel + 1, text =>
    match text with
    | '\x22' :: rest =>
      (parseString rest).map fun result => (.str (String.ofList result.1), result.2)
    | '[' :: rest =>
      match skipSpace rest with
      | ']' :: rest => some (.arr [], rest)
      | rest => (parseItems floats fuel rest).map fun result => (.arr result.1, result.2)
    | '\x7b' :: rest =>
      match skipSpace rest with
      | '\x7d' :: rest => some (.obj [], rest)
      | rest =>
        (parseFields floats fuel rest).map fun result => (.obj (dictOf result.1), result.2)
    | 'n' :: 'u' :: 'l' :: 'l' :: rest => some (.null, rest)
    | 't' :: 'r' :: 'u' :: 'e' :: rest => some (.bool true, rest)
    | 'f' :: 'a' :: 'l' :: 's' :: 'e' :: rest => some (.bool false, rest)
    | text => parseNumber floats text

def parseItems (floats : FloatText) : Nat → List Char → Option (List Json × List Char)
  | 0, _ => none
  | fuel + 1, text => do
      let (item, rest) ← parseValue floats fuel text
      match skipSpace rest with
      | ']' :: rest => some ([item], rest)
      | ',' :: rest =>
        let (items, rest) ← parseItems floats fuel (skipSpace rest)
        some (item :: items, rest)
      | _ => none

def parseFields (floats : FloatText) : Nat → List Char → Option (List (String × Json) × List Char)
  | fuel + 1, '\x22' :: text => do
      let (key, rest) ← parseString text
      match skipSpace rest with
      | ':' :: rest =>
        let (value, rest) ← parseValue floats fuel (skipSpace rest)
        match skipSpace rest with
        | '\x7d' :: rest => some ([(String.ofList key, value)], rest)
        | ',' :: rest =>
          let (fields, rest) ← parseFields floats fuel (skipSpace rest)
          some ((String.ofList key, value) :: fields, rest)
        | _ => none
      | _ => none
  | _, _ => none

end

def renderString (text : String) : List Char :=
  '\x22' :: (text.toList.flatMap escapeChar ++ ['\x22'])

mutual

/-- `json.dumps` without spaces, the keys in the order of the dictionary. -/
def render (floats : FloatText) : Json → List Char
  | .null => ['n', 'u', 'l', 'l']
  | .bool true => ['t', 'r', 'u', 'e']
  | .bool false => ['f', 'a', 'l', 's', 'e']
  | .int value => intText value
  | .float value => floats.repr value
  | .str value => renderString value
  | .arr items => '[' :: renderItems floats items
  | .obj fields => '\x7b' :: renderFields floats fields

def renderItems (floats : FloatText) : List Json → List Char
  | [] => [']']
  | [item] => render floats item ++ [']']
  | item :: next :: rest => render floats item ++ ',' :: renderItems floats (next :: rest)

def renderFields (floats : FloatText) : List (String × Json) → List Char
  | [] => ['\x7d']
  | [(key, value)] => renderString key ++ ':' :: (render floats value ++ ['\x7d'])
  | (key, value) :: next :: rest =>
    renderString key ++ ':' :: (render floats value ++ ',' :: renderFields floats (next :: rest))

end

mutual

/-- The text with `blank` after every comma and every colon. -/
def renderWith (floats : FloatText) (blank : List Char) : Json → List Char
  | .null => ['n', 'u', 'l', 'l']
  | .bool true => ['t', 'r', 'u', 'e']
  | .bool false => ['f', 'a', 'l', 's', 'e']
  | .int value => intText value
  | .float value => floats.repr value
  | .str value => renderString value
  | .arr items => '[' :: renderItemsWith floats blank items
  | .obj fields => '\x7b' :: renderFieldsWith floats blank fields

def renderItemsWith (floats : FloatText) (blank : List Char) : List Json → List Char
  | [] => [']']
  | [item] => renderWith floats blank item ++ [']']
  | item :: next :: rest =>
    renderWith floats blank item ++ ',' :: (blank ++ renderItemsWith floats blank (next :: rest))

def renderFieldsWith (floats : FloatText) (blank : List Char) : List (String × Json) → List Char
  | [] => ['\x7d']
  | [(key, value)] =>
    renderString key ++ ':' :: (blank ++ (renderWith floats blank value ++ ['\x7d']))
  | (key, value) :: next :: rest =>
    renderString key ++ ':' :: (blank ++ (renderWith floats blank value ++
      ',' :: (blank ++ renderFieldsWith floats blank (next :: rest))))

end

mutual

/-- Every object in the value has distinct keys, as a Python `dict` has. -/
def Json.distinctKeys : Json → Bool
  | .arr items => itemsDistinctKeys items
  | .obj fields => decide (fields.map Prod.fst).Nodup && fieldsDistinctKeys fields
  | _ => true

def itemsDistinctKeys : List Json → Bool
  | [] => true
  | item :: rest => item.distinctKeys && itemsDistinctKeys rest

def fieldsDistinctKeys : List (String × Json) → Bool
  | [] => true
  | (_, value) :: rest => value.distinctKeys && fieldsDistinctKeys rest

end

section

variable {floats : FloatText} {blank : List Char}

theorem dict_of_distinct {pairs : List (String × Json)} (distinct : (pairs.map Prod.fst).Nodup) :
    dictOf pairs = pairs := by
  have keeps : ∀ (rest before : List (String × Json)),
      ((before ++ rest).map Prod.fst).Nodup → rest.foldl insertField before = before ++ rest := by
    intro rest
    induction rest with
    | nil => intro before _; exact (append_nil before).symm
    | cons field rest ih =>
      intro before nodup
      have fresh : (before.any fun old => decide (old.1 = field.1)) = false := by
        rw [any_eq_false]
        intro old mem same
        rw [map_append, map_cons, nodup_append] at nodup
        exact nodup.2.2 old.1 (mem_map_of_mem mem) field.1 mem_cons_self (of_decide_eq_true same)
      rw [foldl_cons, insertField, fresh, if_neg Bool.false_ne_true]
      rw [ih (before ++ [field]) (by simpa using nodup), append_assoc]
      rfl
  exact keeps pairs [] distinct

theorem skip_space_cons {head : Char} {tail : List Char} (visible : isSpace head = false) :
    skipSpace (head :: tail) = head :: tail := by
  rw [skipSpace, dropWhile_cons_of_neg (by simp [visible])]

theorem parse_value_number {fuel : Nat} {head : Char} {tail : List Char}
    (number : isNumberChar head = true) :
    parseValue floats (fuel + 1) (head :: tail) = parseNumber floats (head :: tail) := by
  rw [parseValue]
  all_goals
    intro rest same
    cases same
    exact absurd number (by decide)

theorem int_text_head (value : Int) :
    ∃ head tail, intText value = head :: tail ∧ isNumberChar head = true := by
  have nonempty : intText value ≠ [] := by
    unfold intText
    split
    · exact cons_ne_nil _ _
    · exact Nat.toDigits_ne_nil
  obtain ⟨head, tail, same⟩ := exists_cons_of_ne_nil nonempty
  refine ⟨head, tail, same, int_text_number value head ?_⟩
  rw [same]
  exact mem_cons_self

theorem float_text_head (lawful : floats.Lawful) (value : PyFloat) :
    ∃ head tail, floats.repr value = head :: tail ∧ isNumberChar head = true := by
  have token := lawful.token value
  cases text : floats.repr value with
  | nil =>
    rw [text] at token
    cases token
  | cons head tail =>
    refine ⟨head, tail, rfl, float_token_number token head ?_⟩
    rw [text]
    exact mem_cons_self

theorem render_with_head (lawful : floats.Lawful) (value : Json) :
    ∃ head tail, renderWith floats blank value = head :: tail ∧ isSpace head = false ∧ head ≠ ']' := by
  have number : ∀ char, isNumberChar char = true → isSpace char = false ∧ char ≠ ']' := by
    intro char numeral
    constructor
    · by_contra space
      simp only [Bool.not_eq_false, isSpace, Bool.or_eq_true, decide_eq_true_eq] at space
      rcases space with ((rfl | rfl) | rfl) | rfl <;> exact absurd numeral (by decide)
    · rintro rfl
      exact absurd numeral (by decide)
  cases value with
  | int value =>
    obtain ⟨head, tail, same, numeral⟩ := int_text_head value
    exact ⟨head, tail, same, number head numeral⟩
  | float value =>
    obtain ⟨head, tail, same, numeral⟩ := float_text_head lawful value
    exact ⟨head, tail, same, number head numeral⟩
  | bool value => cases value <;> exact ⟨_, _, rfl, by decide⟩
  | _ => exact ⟨_, _, rfl, by decide⟩

theorem skip_space_render (lawful : floats.Lawful) (value : Json) (rest : List Char) :
    skipSpace (renderWith floats blank value ++ rest) = renderWith floats blank value ++ rest := by
  obtain ⟨head, tail, same, visible, -⟩ := render_with_head lawful value
  rw [same, cons_append, skip_space_cons visible]

theorem skip_space_blank (spaces : blank.all isSpace = true) (text : List Char) :
    skipSpace (blank ++ text) = skipSpace text :=
  dropWhile_append_of_pos (all_eq_true.mp spaces)

theorem render_items_head (lawful : floats.Lawful) (item : Json) (items : List Json) :
    ∃ head tail, renderItemsWith floats blank (item :: items) = head :: tail ∧
      isSpace head = false ∧ head ≠ ']' := by
  obtain ⟨head, tail, same, facts⟩ := render_with_head lawful item
  cases items with
  | nil =>
    rw [renderItemsWith, same]
    exact ⟨head, tail ++ [']'], rfl, facts⟩
  | cons next rest =>
    rw [renderItemsWith, same]
    exact ⟨head, _, rfl, facts⟩

theorem render_fields_head (floats : FloatText) (blank : List Char) (field : String × Json)
    (fields : List (String × Json)) :
    ∃ tail, renderFieldsWith floats blank (field :: fields) = '\x22' :: tail := by
  cases fields with
  | nil => exact ⟨_, rfl⟩
  | cons next rest => exact ⟨_, rfl⟩

theorem parse_render_string (text : String) (rest : List Char) :
    parseString ((text.toList.flatMap escapeChar ++ ['\x22']) ++ rest) =
      some (text.toList, rest) := by
  rw [append_assoc]
  exact parse_escaped text.toList rest

section

variable {fuel : Nat} {text next rest key : List Char} {item value : Json}

theorem parse_items_last (parsed : parseValue floats fuel text = some (item, ']' :: rest)) :
    parseItems floats (fuel + 1) text = some ([item], rest) := by
  rw [parseItems, parsed]
  rfl

theorem parse_items_more {items : List Json}
    (parsed : parseValue floats fuel text = some (item, ',' :: next))
    (remaining : parseItems floats fuel (skipSpace next) = some (items, rest)) :
    parseItems floats (fuel + 1) text = some (item :: items, rest) := by
  rw [parseItems, parsed]
  change (parseItems floats fuel (skipSpace next)).bind _ = _
  rw [remaining]
  rfl

theorem parse_fields_last (named : parseString text = some (key, ':' :: next))
    (parsed : parseValue floats fuel (skipSpace next) = some (value, '\x7d' :: rest)) :
    parseFields floats (fuel + 1) ('\x22' :: text) = some ([(String.ofList key, value)], rest) := by
  rw [parseFields, named]
  change (parseValue floats fuel (skipSpace next)).bind _ = _
  rw [parsed]
  rfl

theorem parse_fields_more {later : List Char} {fields : List (String × Json)}
    (named : parseString text = some (key, ':' :: next))
    (parsed : parseValue floats fuel (skipSpace next) = some (value, ',' :: later))
    (remaining : parseFields floats fuel (skipSpace later) = some (fields, rest)) :
    parseFields floats (fuel + 1) ('\x22' :: text) =
      some ((String.ofList key, value) :: fields, rest) := by
  rw [parseFields, named]
  change (parseValue floats fuel (skipSpace next)).bind _ = _
  rw [parsed]
  change (parseFields floats fuel (skipSpace later)).bind _ = _
  rw [remaining]
  rfl

end

mutual

theorem parse_with (lawful : floats.Lawful) (spaces : blank.all isSpace = true) :
    ∀ (value : Json) {fuel : Nat} {rest : List Char}, value.distinctKeys = true →
    (renderWith floats blank value).length ≤ fuel → NumberEnds rest →
    parseValue floats fuel (renderWith floats blank value ++ rest) = some (value, rest)
  | value, 0, rest, distinct, enough, ends => by
      obtain ⟨head, tail, same, -⟩ := render_with_head lawful value
      rw [same] at enough
      cases enough
  | .null, fuel + 1, rest, distinct, enough, ends => rfl
  | .bool true, fuel + 1, rest, distinct, enough, ends => rfl
  | .bool false, fuel + 1, rest, distinct, enough, ends => rfl
  | .int value, fuel + 1, rest, distinct, enough, ends => by
      obtain ⟨head, tail, same, numeral⟩ := int_text_head value
      rw [renderWith, ← parse_int_text floats value ends, same]
      exact parse_value_number numeral
  | .float value, fuel + 1, rest, distinct, enough, ends => by
      obtain ⟨head, tail, same, numeral⟩ := float_text_head lawful value
      rw [renderWith, ← parse_float_text lawful value ends, same]
      exact parse_value_number numeral
  | .str value, fuel + 1, rest, distinct, enough, ends => by
      rw [renderWith, renderString, cons_append, parseValue, parse_render_string]
      simp only [Option.map_some, String.ofList_toList]
  | .arr [], fuel + 1, rest, distinct, enough, ends => rfl
  | .arr (item :: items), fuel + 1, rest, distinct, enough, ends => by
      obtain ⟨head, tail, same, visible, open_⟩ := render_items_head lawful item items
      have parsed : parseItems floats fuel (renderItemsWith floats blank (item :: items) ++ rest) =
          some (item :: items, rest) :=
        parse_items lawful spaces item items distinct (Nat.le_of_succ_le_succ enough)
      rw [same] at parsed
      rw [renderWith, cons_append, parseValue, same, cons_append, skip_space_cons visible]
      split
      · next ending =>
        cases ending
        exact (open_ rfl).elim
      · rw [← cons_append, parsed]
        rfl
  | .obj [], fuel + 1, rest, distinct, enough, ends => rfl
  | .obj (field :: fields), fuel + 1, rest, distinct, enough, ends => by
      rw [Json.distinctKeys, Bool.and_eq_true, decide_eq_true_eq] at distinct
      obtain ⟨tail, same⟩ := render_fields_head floats blank field fields
      have parsed : parseFields floats fuel
          (renderFieldsWith floats blank (field :: fields) ++ rest) =
            some (field :: fields, rest) :=
        parse_fields lawful spaces field fields distinct.2 (Nat.le_of_succ_le_succ enough)
      rw [same] at parsed
      rw [renderWith, cons_append, parseValue, same, cons_append, skip_space_cons (by decide)]
      split
      · next ending => cases ending
      · rw [← cons_append, parsed, Option.map_some, dict_of_distinct distinct.1]

theorem parse_items (lawful : floats.Lawful) (spaces : blank.all isSpace = true) :
    ∀ (item : Json) (items : List Json) {fuel : Nat} {rest : List Char},
    itemsDistinctKeys (item :: items) = true →
    (renderItemsWith floats blank (item :: items)).length ≤ fuel →
    parseItems floats fuel (renderItemsWith floats blank (item :: items) ++ rest) =
      some (item :: items, rest)
  | item, items, 0, rest, distinct, enough => by
      obtain ⟨head, tail, same, -⟩ := render_items_head lawful item items
      rw [same] at enough
      cases enough
  | item, [], fuel + 1, rest, distinct, enough => by
      rw [itemsDistinctKeys, Bool.and_eq_true] at distinct
      rw [renderItemsWith, length_append, length_singleton] at enough
      have closing : NumberEnds (']' :: rest) := by
        rintro char ⟨rfl⟩
        rfl
      rw [renderItemsWith, append_assoc, singleton_append]
      exact parse_items_last (parse_with lawful spaces item distinct.1 (by omega) closing)
  | item, next :: items, fuel + 1, rest, distinct, enough => by
      rw [itemsDistinctKeys, Bool.and_eq_true] at distinct
      rw [renderItemsWith, length_append, length_cons, length_append] at enough
      have closing : NumberEnds
          (',' :: (blank ++ (renderItemsWith floats blank (next :: items) ++ rest))) := by
        rintro char ⟨rfl⟩
        rfl
      rw [renderItemsWith, append_assoc, cons_append, append_assoc]
      apply parse_items_more (parse_with lawful spaces item distinct.1 (by omega) closing)
      obtain ⟨head, tail, same, visible, -⟩ := render_items_head lawful next items
      have remaining : parseItems floats fuel
          (renderItemsWith floats blank (next :: items) ++ rest) = some (next :: items, rest) :=
        parse_items lawful spaces next items distinct.2 (by omega)
      rw [same] at remaining
      rw [skip_space_blank spaces, same, cons_append, skip_space_cons visible]
      exact remaining

theorem parse_fields (lawful : floats.Lawful) (spaces : blank.all isSpace = true) :
    ∀ (field : String × Json) (fields : List (String × Json)) {fuel : Nat} {rest : List Char},
    fieldsDistinctKeys (field :: fields) = true →
    (renderFieldsWith floats blank (field :: fields)).length ≤ fuel →
    parseFields floats fuel (renderFieldsWith floats blank (field :: fields) ++ rest) =
      some (field :: fields, rest)
  | field, fields, 0, rest, distinct, enough => by
      obtain ⟨tail, same⟩ := render_fields_head floats blank field fields
      rw [same] at enough
      cases enough
  | (key, value), [], fuel + 1, rest, distinct, enough => by
      rw [fieldsDistinctKeys, Bool.and_eq_true] at distinct
      simp only [renderFieldsWith, renderString, length_append, length_cons] at enough
      have closing : NumberEnds ('\x7d' :: rest) := by
        rintro char ⟨rfl⟩
        rfl
      have short : (renderWith floats blank value).length ≤ fuel := by omega
      have named := parse_escaped key.toList
        (':' :: (blank ++ (renderWith floats blank value ++ '\x7d' :: rest)))
      have parsed := parse_with lawful spaces value distinct.1 short closing
      rw [← skip_space_render lawful, ← skip_space_blank spaces] at parsed
      have fields := parse_fields_last named parsed
      rw [String.ofList_toList] at fields
      simpa only [renderFieldsWith, renderString, cons_append, append_assoc,
        nil_append] using fields
  | (key, value), next :: fields, fuel + 1, rest, distinct, enough => by
      rw [fieldsDistinctKeys, Bool.and_eq_true] at distinct
      simp only [renderFieldsWith, renderString, length_append, length_cons] at enough
      have closing : NumberEnds
          (',' :: (blank ++ (renderFieldsWith floats blank (next :: fields) ++ rest))) := by
        rintro char ⟨rfl⟩
        rfl
      have short : (renderWith floats blank value).length ≤ fuel := by omega
      have named := parse_escaped key.toList (':' :: (blank ++ (renderWith floats blank value ++
        ',' :: (blank ++ (renderFieldsWith floats blank (next :: fields) ++ rest)))))
      have parsed := parse_with lawful spaces value distinct.1 short closing
      have remaining : parseFields floats fuel
          (renderFieldsWith floats blank (next :: fields) ++ rest) = some (next :: fields, rest) :=
        parse_fields lawful spaces next fields distinct.2 (by omega)
      obtain ⟨tail, same⟩ := render_fields_head floats blank next fields
      have unspaced : skipSpace (blank ++ (renderFieldsWith floats blank (next :: fields) ++
          rest)) = renderFieldsWith floats blank (next :: fields) ++ rest := by
        rw [skip_space_blank spaces, same, cons_append, skip_space_cons (by decide)]
      rw [← skip_space_render lawful, ← skip_space_blank spaces] at parsed
      rw [← unspaced] at remaining
      have all := parse_fields_more named parsed remaining
      rw [String.ofList_toList] at all
      simpa only [renderFieldsWith, renderString, cons_append, append_assoc, nil_append] using all

end

mutual

theorem render_with_nil : ∀ value : Json, renderWith floats [] value = render floats value
  | .arr items => by rw [renderWith, render, render_items_nil items]
  | .obj fields => by rw [renderWith, render, render_fields_nil fields]
  | .null | .bool true | .bool false | .int _ | .float _ | .str _ => rfl

theorem render_items_nil : ∀ items : List Json,
    renderItemsWith floats [] items = renderItems floats items
  | [] => rfl
  | [item] => by rw [renderItemsWith, renderItems, render_with_nil item]
  | item :: next :: rest => by
      rw [renderItemsWith, renderItems, render_with_nil item, render_items_nil (next :: rest)]
      rfl

theorem render_fields_nil : ∀ fields : List (String × Json),
    renderFieldsWith floats [] fields = renderFields floats fields
  | [] => rfl
  | [(key, value)] => by
      rw [renderFieldsWith, renderFields, render_with_nil value]
      rfl
  | (key, value) :: next :: rest => by
      rw [renderFieldsWith, renderFields, render_with_nil value, render_fields_nil (next :: rest)]
      rfl

end

end

/-- The order of the keys: `str` compares by code points. -/
def FieldLe (left right : String × Json) : Prop := left.1 ≤ right.1

instance : DecidableRel FieldLe := fun left right => inferInstanceAs (Decidable (left.1 ≤ right.1))

instance : Std.Total FieldLe := ⟨fun left right => le_total left.1 right.1⟩

instance : IsTrans (String × Json) FieldLe := ⟨fun _ _ _ first second => le_trans first second⟩

mutual

def Json.sortKeys : Json → Json
  | .arr items => .arr (sortItemKeys items)
  | .obj fields => .obj ((sortFieldKeys fields).insertionSort FieldLe)
  | value => value

def sortItemKeys : List Json → List Json
  | [] => []
  | item :: rest => item.sortKeys :: sortItemKeys rest

def sortFieldKeys : List (String × Json) → List (String × Json)
  | [] => []
  | (key, value) :: rest => (key, value.sortKeys) :: sortFieldKeys rest

end

/-- `json.dumps(value, ensure_ascii=False, sort_keys=True, separators=(",", ":"))`. -/
def jsonDumps (floats : FloatText) (value : Json) : String :=
  String.ofList (render floats value.sortKeys)

/-- `json.dumps(value, ensure_ascii=False, separators=(",", ":"))`. -/
def jsonDumpsUnsorted (floats : FloatText) (value : Json) : String :=
  String.ofList (render floats value)

def jsonLoads (floats : FloatText) (text : String) : Option Json :=
  match parseValue floats text.toList.length (skipSpace text.toList) with
  | some (value, rest) => if skipSpace rest = [] then some value else none
  | none => none

section

theorem sort_field_keys_map (fields : List (String × Json)) :
    sortFieldKeys fields = fields.map fun field => (field.1, field.2.sortKeys) := by
  induction fields with
  | nil => rfl
  | cons field rest ih => rw [sortFieldKeys, ih, map_cons]

theorem fields_distinct_all (fields : List (String × Json)) :
    fieldsDistinctKeys fields = fields.all fun field => field.2.distinctKeys := by
  induction fields with
  | nil => rfl
  | cons field rest ih => rw [fieldsDistinctKeys, ih, all_cons]

theorem sort_field_keys_fst (fields : List (String × Json)) :
    (sortFieldKeys fields).map Prod.fst = fields.map Prod.fst := by
  rw [sort_field_keys_map, map_map]
  rfl

mutual

theorem sort_keys_idem : ∀ value : Json, value.sortKeys.sortKeys = value.sortKeys
  | .arr items => by
      rw [Json.sortKeys, Json.sortKeys, sort_item_keys_idem items]
  | .obj fields => by
      have settled : sortFieldKeys ((sortFieldKeys fields).insertionSort FieldLe) =
          (sortFieldKeys fields).insertionSort FieldLe := by
        rw [sort_field_keys_map]
        refine (map_congr_left fun field mem => ?_).trans (map_id _)
        rw [sort_field_keys_idem fields field ((mem_insertionSort FieldLe).mp mem)]
        rfl
      rw [Json.sortKeys, Json.sortKeys, settled,
        (pairwise_insertionSort FieldLe _).insertionSort_eq]
  | .null | .bool _ | .int _ | .float _ | .str _ => rfl

theorem sort_item_keys_idem : ∀ items : List Json,
    sortItemKeys (sortItemKeys items) = sortItemKeys items
  | [] => rfl
  | item :: rest => by
      rw [sortItemKeys, sortItemKeys, sort_keys_idem item, sort_item_keys_idem rest]

theorem sort_field_keys_idem : ∀ (fields : List (String × Json)) (field : String × Json),
    field ∈ sortFieldKeys fields → field.2.sortKeys = field.2
  | [], field, mem => by cases mem
  | (key, value) :: rest, field, mem => by
      rcases mem_cons.mp mem with rfl | later
      · exact sort_keys_idem value
      · exact sort_field_keys_idem rest field later

end

mutual

theorem sort_keys_distinct : ∀ value : Json,
    value.distinctKeys = true → value.sortKeys.distinctKeys = true
  | .arr items, distinct => sort_item_keys_distinct items distinct
  | .obj fields, distinct => by
      rw [Json.distinctKeys, Bool.and_eq_true, decide_eq_true_eq] at distinct
      have order := perm_insertionSort FieldLe (sortFieldKeys fields)
      rw [Json.sortKeys, Json.distinctKeys, Bool.and_eq_true, decide_eq_true_eq,
        fields_distinct_all, order.all_eq, ← fields_distinct_all]
      refine ⟨?_, sort_field_keys_distinct fields distinct.2⟩
      rw [(order.map Prod.fst).nodup_iff, sort_field_keys_fst]
      exact distinct.1
  | .null, _ | .bool _, _ | .int _, _ | .float _, _ | .str _, _ => rfl

theorem sort_item_keys_distinct : ∀ items : List Json,
    itemsDistinctKeys items = true → itemsDistinctKeys (sortItemKeys items) = true
  | [], _ => rfl
  | item :: rest, distinct => by
      rw [itemsDistinctKeys, Bool.and_eq_true] at distinct
      rw [sortItemKeys, itemsDistinctKeys, sort_keys_distinct item distinct.1,
        sort_item_keys_distinct rest distinct.2]
      rfl

theorem sort_field_keys_distinct : ∀ fields : List (String × Json),
    fieldsDistinctKeys fields = true → fieldsDistinctKeys (sortFieldKeys fields) = true
  | [], _ => rfl
  | (key, value) :: rest, distinct => by
      rw [fieldsDistinctKeys, Bool.and_eq_true] at distinct
      rw [sortFieldKeys, fieldsDistinctKeys, sort_keys_distinct value distinct.1,
        sort_field_keys_distinct rest distinct.2]
      rfl

end

variable {floats : FloatText} {blank : List Char}

theorem loads_with (lawful : floats.Lawful) (spaces : blank.all isSpace = true) {value : Json}
    (distinct : value.distinctKeys = true) :
    jsonLoads floats (String.ofList (renderWith floats blank value)) = some value := by
  have ends : NumberEnds [] := by
    intro char mem
    cases mem
  have read := parse_with lawful spaces value distinct le_rfl ends
  have unspaced : skipSpace (renderWith floats blank value ++ []) = _ :=
    skip_space_render lawful value []
  rw [append_nil] at read unspaced
  rw [jsonLoads, String.toList_ofList, unspaced, read]
  rfl

theorem loads_dumps_unsorted (lawful : floats.Lawful) {value : Json}
    (distinct : value.distinctKeys = true) :
    jsonLoads floats (jsonDumpsUnsorted floats value) = some value := by
  rw [jsonDumpsUnsorted, ← render_with_nil]
  exact loads_with lawful rfl distinct

theorem loads_dumps (lawful : floats.Lawful) {value : Json} (distinct : value.distinctKeys = true) :
    jsonLoads floats (jsonDumps floats value) = some value.sortKeys :=
  loads_dumps_unsorted lawful (sort_keys_distinct value distinct)

theorem dumps_sort_keys (floats : FloatText) (value : Json) :
    jsonDumps floats value.sortKeys = jsonDumps floats value := by
  rw [jsonDumps, jsonDumps, sort_keys_idem]

theorem dumps_sorted_eq (lawful : floats.Lawful) {left right : Json}
    (leftDistinct : left.distinctKeys = true) (rightDistinct : right.distinctKeys = true)
    (same : jsonDumps floats left = jsonDumps floats right) : left.sortKeys = right.sortKeys := by
  have first := loads_dumps lawful leftDistinct
  rw [same, loads_dumps lawful rightDistinct] at first
  exact (Option.some.inj first).symm

end

/-- A value whose objects have their keys in order, so that it is given by its text. -/
structure Json.Canonical (value : Json) : Prop where
  sorted : value.sortKeys = value
  distinct : value.distinctKeys = true

/-- An object with canonical values, and its own keys in any order; or any canonical value. -/
def Json.Tidy : Json → Prop
  | .obj fields => (fields.map Prod.fst).Nodup ∧ ∀ field ∈ fields, field.2.Canonical
  | value => value.Canonical

section

theorem canonical_str (text : String) : (Json.str text).Canonical := ⟨rfl, rfl⟩

theorem canonical_int (value : Int) : (Json.int value).Canonical := ⟨rfl, rfl⟩

theorem sort_item_keys_map (items : List Json) : sortItemKeys items = items.map Json.sortKeys := by
  induction items with
  | nil => rfl
  | cons item rest ih => rw [sortItemKeys, ih, map_cons]

theorem items_distinct_all (items : List Json) :
    itemsDistinctKeys items = items.all Json.distinctKeys := by
  induction items with
  | nil => rfl
  | cons item rest ih => rw [itemsDistinctKeys, ih, all_cons]

theorem canonical_texts (texts : List String) : (Json.arr (texts.map Json.str)).Canonical := by
  constructor
  · rw [Json.sortKeys, sort_item_keys_map, map_map]
    rfl
  · rw [Json.distinctKeys, items_distinct_all]
    simp [Json.distinctKeys]

variable {fields : List (String × Json)} {value : Json}

theorem get_eq_some_iff {key : String} (distinct : (fields.map Prod.fst).Nodup) :
    (Json.obj fields).get? key = some value ↔ (key, value) ∈ fields := by
  induction fields with
  | nil => simp [Json.get?]
  | cons field rest ih =>
    rw [map_cons, nodup_cons] at distinct
    have later := ih distinct.2
    simp only [Json.get?] at later ⊢
    by_cases own : field.1 = key
    · have first : (field :: rest).find? (fun entry => decide (entry.1 = key)) = some field :=
        find?_cons_of_pos (decide_eq_true own)
      rw [first, mem_cons]
      constructor
      · intro same
        left
        rw [← own, ← Option.some.inj same]
      · rintro (same | listed)
        · rw [← same]
          rfl
        · exact absurd (mem_map.mpr ⟨_, listed, own.symm⟩) distinct.1
    · have first : (field :: rest).find? (fun entry => decide (entry.1 = key)) =
          rest.find? fun entry => decide (entry.1 = key) :=
        find?_cons_of_neg (by simp [own])
      rw [first, later, mem_cons]
      refine ⟨.inr, fun listed => listed.resolve_left fun same => own ?_⟩
      rw [← same]

theorem get_sort_keys (distinct : (fields.map Prod.fst).Nodup) (key : String) :
    (Json.obj fields).sortKeys.get? key = ((Json.obj fields).get? key).map Json.sortKeys := by
  have order := perm_insertionSort FieldLe (sortFieldKeys fields)
  have sorted : (((sortFieldKeys fields).insertionSort FieldLe).map Prod.fst).Nodup := by
    rw [(order.map Prod.fst).nodup_iff, sort_field_keys_fst]
    exact distinct
  apply Option.ext
  intro value
  rw [Json.sortKeys, get_eq_some_iff sorted, order.mem_iff, sort_field_keys_map, mem_map,
    Option.map_eq_some_iff]
  constructor
  · rintro ⟨field, listed, same⟩
    obtain ⟨rfl, rfl⟩ := Prod.mk.inj same
    exact ⟨field.2, (get_eq_some_iff distinct).mpr listed, rfl⟩
  · rintro ⟨old, found, rfl⟩
    exact ⟨(key, old), (get_eq_some_iff distinct).mp found, rfl⟩

theorem sort_keys_get_eq {left right : List (String × Json)} (leftKeys : (left.map Prod.fst).Nodup)
    (rightKeys : (right.map Prod.fst).Nodup)
    (same : (Json.obj left).sortKeys = (Json.obj right).sortKeys) (key : String) :
    ((Json.obj left).get? key).map Json.sortKeys =
      ((Json.obj right).get? key).map Json.sortKeys := by
  rw [← get_sort_keys leftKeys, same, get_sort_keys rightKeys]

theorem canonical_tidy (canonical : value.Canonical) : value.Tidy := by
  cases value with
  | obj fields =>
    have sorted := canonical.sorted
    have distinct := canonical.distinct
    rw [Json.sortKeys, Json.obj.injEq] at sorted
    rw [Json.distinctKeys, Bool.and_eq_true, decide_eq_true_eq, fields_distinct_all,
      all_eq_true] at distinct
    refine ⟨distinct.1, fun field listed => ⟨?_, distinct.2 field listed⟩⟩
    rw [← sorted, mem_insertionSort] at listed
    exact sort_field_keys_idem fields field listed
  | null => exact canonical
  | bool _ => exact canonical
  | int _ => exact canonical
  | float _ => exact canonical
  | str _ => exact canonical
  | arr _ => exact canonical

theorem tidy_get {data : Json} {key : String} (tidy : data.Tidy)
    (found : data.get? key = some value) : value.Canonical := by
  cases data with
  | obj fields => exact tidy.2 _ ((get_eq_some_iff tidy.1).mp found)
  | null => cases found
  | bool _ => cases found
  | int _ => cases found
  | float _ => cases found
  | str _ => cases found
  | arr _ => cases found

theorem tidy_distinct {data : Json} (tidy : data.Tidy) : data.distinctKeys = true := by
  cases data with
  | obj fields =>
    rw [Json.distinctKeys, Bool.and_eq_true, fields_distinct_all, all_eq_true]
    exact ⟨decide_eq_true tidy.1, fun field listed => (tidy.2 field listed).distinct⟩
  | null => rfl
  | bool _ => rfl
  | int _ => rfl
  | float _ => rfl
  | str _ => rfl
  | arr _ => exact tidy.distinct

theorem tidy_get_eq {left right : Json} (leftTidy : left.Tidy) (rightTidy : right.Tidy)
    (same : left.sortKeys = right.sortKeys) (key : String) : left.get? key = right.get? key := by
  have settled : ∀ {data : Json}, data.Tidy → data.sortKeys.get? key = data.get? key := by
    intro data tidy
    cases data with
    | obj fields =>
      rw [get_sort_keys tidy.1]
      cases found : (Json.obj fields).get? key with
      | none => rfl
      | some value => exact congrArg some (tidy_get tidy found).sorted
    | null => rfl
    | bool _ => rfl
    | int _ => rfl
    | float _ => rfl
    | str _ => rfl
    | arr _ => rfl
  rw [← settled leftTidy, same, settled rightTidy]

theorem insert_field_fst (fields : List (String × Json)) (field : String × Json) :
    (insertField fields field).map Prod.fst =
      if field.1 ∈ fields.map Prod.fst then fields.map Prod.fst
      else fields.map Prod.fst ++ [field.1] := by
  have present : fields.any (fun old => old.1 = field.1) = true ↔
      field.1 ∈ fields.map Prod.fst := by
    simp [any_eq_true]
  rw [insertField]
  by_cases listed : field.1 ∈ fields.map Prod.fst
  · rw [if_pos (present.mpr listed), if_pos listed, map_map]
    apply map_congr_left
    intro old _
    by_cases own : old.1 = field.1
    · simp [own]
    · simp [own]
  · rw [if_neg fun found => listed (present.mp found), if_neg listed]
    simp

variable {field : String × Json}

theorem insert_field_nodup
    (distinct : (fields.map Prod.fst).Nodup) : ((insertField fields field).map Prod.fst).Nodup := by
  rw [insert_field_fst]
  split
  · exact distinct
  · next fresh =>
    rw [nodup_append]
    refine ⟨distinct, nodup_singleton _, ?_⟩
    intro key listed other own same
    rw [mem_singleton] at own
    exact fresh (own ▸ same ▸ listed)

theorem mem_insert_field {entry : String × Json}
    (listed : entry ∈ insertField fields field) : entry ∈ fields ∨ entry = field := by
  rw [insertField] at listed
  split at listed
  · obtain ⟨old, mem, same⟩ := mem_map.mp listed
    split at same
    · exact .inr same.symm
    · exact .inl (same ▸ mem)
  · simpa using listed

theorem tidy_insert (tidy : (Json.obj fields).Tidy) (canonical : field.2.Canonical) :
    (Json.obj (insertField fields field)).Tidy := by
  refine ⟨insert_field_nodup tidy.1, fun entry listed => ?_⟩
  rcases mem_insert_field listed with old | rfl
  · exact tidy.2 entry old
  · exact canonical

end

/-- What stands after the point: an exponent with the denominator, unless it is 1. -/
def ratioTail (denominator : Nat) : List Char :=
  '0' :: if denominator = 1 then [] else 'e' :: Nat.toDigits 10 denominator

/-- Texts for floats that can be read back. That of a whole number is Python's `repr` (below
`10 ** 16`). -/
def ratioFloats : FloatText where
  repr
    | .negativeZero => ['-', '0', '.', '0']
    | .number value => intText value.num ++ '.' :: ratioTail value.den
  read text :=
    if text = ['-', '0', '.', '0'] then some .negativeZero
    else
      let exponent := text.dropWhile fun char => char ≠ 'e'
      let denominator := if exponent = [] then 1 else Nat.ofDigitChars 10 exponent.tail 0
      some (.number (mkRat (readInt (text.takeWhile fun char => char ≠ '.')) denominator))

theorem digits_exponent {digits : List Char} (nonempty : digits ≠ [])
    (all : ∀ char ∈ digits, char.isDigit = true) : isExponent ('e' :: digits) = true := by
  obtain ⟨head, tail, rfl⟩ := exists_cons_of_ne_nil nonempty
  have digit := all head mem_cons_self
  have unmarked : head ≠ '-' ∧ head ≠ '+' := by
    constructor <;> rintro rfl <;> exact absurd digit (by decide)
  have checked : (head :: tail).all Char.isDigit = true := all_eq_true.mpr all
  simp [isExponent, unmarked, checked]

theorem unsigned_int_point (value : Int) (rest : List Char) :
    unsigned (intText value ++ '.' :: rest) = Nat.toDigits 10 value.natAbs ++ '.' :: rest := by
  unfold intText
  split
  · rfl
  · obtain ⟨head, tail, same⟩ := exists_cons_of_ne_nil
      (Nat.toDigits_ne_nil (n := value.natAbs) (b := 10))
    have digit := to_digits_digit value.natAbs head (by rw [same]; exact mem_cons_self)
    rw [same]
    unfold unsigned
    split
    · next rest equal =>
      cases equal
      exact absurd digit (by decide)
    · rfl

theorem ratio_float_token (value : ℚ) : isFloatToken (ratioFloats.repr (.number value)) = true := by
  have digits := to_digits_digit value.num.natAbs
  have exponent := digits_exponent Nat.toDigits_ne_nil (to_digits_digit value.den)
  have whole : unsigned (ratioFloats.repr (.number value)) =
      Nat.toDigits 10 value.num.natAbs ++ '.' :: ratioTail value.den :=
    unsigned_int_point value.num _
  rw [isFloatToken, whole, takeWhile_append_of_pos digits, dropWhile_append_of_pos digits]
  have tail : isFloatTail ('.' :: ratioTail value.den) = true := by
    unfold ratioTail
    split <;> simp [isFloatTail, exponent]
  simp [tail, to_digits_token]

theorem int_text_without (mark : Char) (value : Int) (notDigit : mark.isDigit = false)
    (notSign : mark ≠ '-') : ∀ char ∈ intText value, (decide (char ≠ mark)) = true := by
  intro char mem
  rw [decide_eq_true_eq]
  rintro rfl
  unfold intText at mem
  split at mem
  · rcases mem_cons.mp mem with same | digit
    · exact notSign same
    · rw [to_digits_digit _ char digit] at notDigit
      cases notDigit
  · rw [to_digits_digit _ char mem] at notDigit
    cases notDigit

theorem ratio_not_negative_zero (value : ℚ) :
    ratioFloats.repr (.number value) ≠ ['-', '0', '.', '0'] := by
  intro same
  change intText value.num ++ '.' :: ratioTail value.den = _ at same
  unfold ratioTail at same
  split at same
  · have front : intText value.num = ['-', '0'] := append_cancel_right same
    have zero : value.num = 0 := by
      rw [← read_int_text value.num, front]
      rfl
    rw [zero] at front
    exact absurd front (by decide)
  · have marked : 'e' ∈ ['-', '0', '.', '0'] := by
      rw [← same]
      simp
    exact absurd marked (by decide)

theorem ratio_float_read (value : ℚ) :
    ratioFloats.read (ratioFloats.repr (.number value)) = some (.number value) := by
  have other := ratio_not_negative_zero value
  have text : ratioFloats.repr (.number value) = intText value.num ++ '.' :: ratioTail value.den :=
    rfl
  have numerator := int_text_without '.' value.num rfl (by decide)
  have mantissa := int_text_without 'e' value.num rfl (by decide)
  rw [text] at other ⊢
  simp only [ratioFloats, other, if_false, takeWhile_append_of_pos numerator,
    dropWhile_append_of_pos mantissa]
  by_cases whole : value.den = 1
  · have quotient := Rat.mkRat_self value
    rw [whole] at quotient
    simp [ratioTail, whole, read_int_text, quotient]
  · simp [ratioTail, whole, read_int_text, Nat.ofDigitChars_ten_toDigits, Rat.mkRat_self]

theorem ratio_floats_lawful : ratioFloats.Lawful := by
  constructor
  · intro value
    cases value with
    | negativeZero => rfl
    | number value => exact ratio_float_token value
  · intro value
    cases value with
    | negativeZero => rfl
    | number value => exact ratio_float_read value

/-- The text with sorted keys is read back as the value with its keys sorted, and two values have
one text exactly when they differ in the order of keys only. -/
theorem canonical_text_faithful {floats : FloatText} (lawful : floats.Lawful) {left right : Json}
    (leftDistinct : left.distinctKeys = true) (rightDistinct : right.distinctKeys = true) :
    jsonLoads floats (jsonDumps floats left) = some left.sortKeys ∧
      (jsonDumps floats left = jsonDumps floats right ↔ left.sortKeys = right.sortKeys) := by
  refine ⟨loads_dumps lawful leftDistinct, dumps_sorted_eq lawful leftDistinct rightDistinct, ?_⟩
  intro same
  rw [jsonDumps, same, jsonDumps]

theorem swapped_keys_faithful : jsonDumps ratioFloats (.obj [("b", .null), ("a", .str "\"")]) =
      jsonDumps ratioFloats (.obj [("a", .str "\""), ("b", .null)]) :=
  (canonical_text_faithful ratio_floats_lawful (by decide) (by decide)).2.mpr rfl

end AgentMate
