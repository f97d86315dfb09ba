import AgentMate.JsonText

/-!
# Strings and line breaks in a JSON text

`json.dumps(value, ensure_ascii=False)` with its default separators, and a scanner that tells
whether a text ends inside a string. What `json.loads` accepts ends outside of every string, and
has the line breaks that are not ASCII inside strings only.
-/

namespace AgentMate

open List Option

mutual

/-- `json.dumps(value, ensure_ascii=False)`. -/
def renderSpaced (floats : FloatText) : Json → List Char
  | .arr items => '[' :: renderSpacedItems floats items
  | .obj fields => '\x7b' :: renderSpacedFields floats fields
  | value => render floats value

def renderSpacedItems (floats : FloatText) : List Json → List Char
  | [] => [']']
  | [item] => renderSpaced floats item ++ [']']
  | item :: next :: rest =>
    renderSpaced floats item ++ ',' :: ' ' :: renderSpacedItems floats (next :: rest)

def renderSpacedFields (floats : FloatText) : List (String × Json) → List Char
  | [] => ['\x7d']
  | [(key, value)] => renderString key ++ ':' :: ' ' :: (renderSpaced floats value ++ ['\x7d'])
  | (key, value) :: next :: rest =>
    renderString key ++ ':' :: ' ' :: (renderSpaced floats value ++
      ',' :: ' ' :: renderSpacedFields floats (next :: rest))

end

mutual

def Json.texts : Json → List Char
  | .str text => text.toList
  | .arr items => itemTexts items
  | .obj fields => fieldTexts fields
  | _ => []

def itemTexts : List Json → List Char
  | [] => []
  | item :: rest => item.texts ++ itemTexts rest

def fieldTexts : List (String × Json) → List Char
  | [] => []
  | (key, value) :: rest => key.toList ++ (value.texts ++ fieldTexts rest)

end

section

variable {floats : FloatText}

mutual

theorem render_with_space : ∀ value : Json,
    renderWith floats [' '] value = renderSpaced floats value
  | .arr items => by rw [renderWith, renderSpaced, render_items_space items]
  | .obj fields => by rw [renderWith, renderSpaced, render_fields_space fields]
  | .null | .bool true | .bool false | .int _ | .float _ | .str _ => rfl

theorem render_items_space : ∀ items : List Json,
    renderItemsWith floats [' '] items = renderSpacedItems floats items
  | [] => rfl
  | [item] => by rw [renderItemsWith, renderSpacedItems, render_with_space item]
  | item :: next :: rest => by
      rw [renderItemsWith, renderSpacedItems, render_with_space item,
        render_items_space (next :: rest)]
      rfl

theorem render_fields_space : ∀ fields : List (String × Json),
    renderFieldsWith floats [' '] fields = renderSpacedFields floats fields
  | [] => rfl
  | [(key, value)] => by
      rw [renderFieldsWith, renderSpacedFields, render_with_space value]
      rfl
  | (key, value) :: next :: rest => by
      rw [renderFieldsWith, renderSpacedFields, render_with_space value,
        render_fields_space (next :: rest)]
      rfl

end

theorem loads_spaced (lawful : floats.Lawful) {value : Json}
    (distinct : value.distinctKeys = true) :
    jsonLoads floats (String.ofList (renderSpaced floats value)) = some value := by
  rw [← render_with_space]
  exact loads_with lawful rfl distinct

/-- A text without control characters, whose characters outside ASCII are those of the strings. -/
structure Written (text chars : List Char) : Prop where
  printable : ∀ char ∈ text, 32 ≤ char.toNat
  wide : ∀ char, 127 < char.toNat → (char ∈ text ↔ char ∈ chars)

theorem written_append {left right leftChars rightChars : List Char}
    (first : Written left leftChars) (second : Written right rightChars) :
    Written (left ++ right) (leftChars ++ rightChars) := by
  constructor
  · intro char mem
    rcases mem_append.mp mem with old | new
    · exact first.printable char old
    · exact second.printable char new
  · intro char outer
    rw [mem_append, mem_append, first.wide char outer, second.wide char outer]

def isAscii (char : Char) : Bool := decide (32 ≤ char.toNat ∧ char.toNat ≤ 127)

theorem written_ascii (text : List Char) (ascii : text.all isAscii = true) : Written text [] := by
  have bounds : ∀ char ∈ text, 32 ≤ char.toNat ∧ char.toNat ≤ 127 := fun char mem =>
    of_decide_eq_true (List.all_eq_true.mp ascii char mem)
  constructor
  · exact fun char mem => (bounds char mem).1
  · intro char outer
    apply iff_of_false _ not_mem_nil
    intro mem
    have inner := (bounds char mem).2
    omega

theorem written_front {front text chars : List Char} (ascii : front.all isAscii = true)
    (written : Written text chars) : Written (front ++ text) chars :=
  written_append (written_ascii front ascii) written

theorem written_cons {head : Char} {text chars : List Char}
    (ascii : isAscii head = true) (written : Written text chars) : Written (head :: text) chars :=
  written_front (show [head].all isAscii = true by simpa using ascii) written

theorem escape_written (char : Char) : Written (escapeChar char) [char] := by
  have narrow : ∀ text : List Char, char.toNat ≤ 127 → text.all isAscii = true →
      Written text [char] := by
    intro text low ascii
    have plain := written_ascii text ascii
    refine ⟨plain.printable, ?_⟩
    intro other outer
    rw [plain.wide other outer]
    apply iff_of_false not_mem_nil
    rw [mem_singleton]
    rintro rfl
    omega
  unfold escapeChar
  split
  · next entry found =>
    have table : ∀ entry ∈ shortEscapes, entry.1.toNat ≤ 127 ∧
        ['\x5c', entry.2].all isAscii = true := by decide
    have same : entry.1 = char := by simpa using find?_some found
    obtain ⟨low, ascii⟩ := table entry (mem_of_find?_eq_some found)
    exact narrow _ (same ▸ low) ascii
  · split
    · next control =>
      have digits : ∀ code < 32, ['\x5c', 'u', '0', '0', hexDigit (code / 16),
          hexDigit (code % 16)].all isAscii = true := by decide
      exact narrow _ (by omega) (digits char.toNat control)
    · next printable =>
      constructor
      · intro other mem
        rw [mem_singleton.mp mem]
        omega
      · intro _ _
        rfl

theorem string_written (text : String) : Written (renderString text) text.toList := by
  have body : ∀ chars : List Char, Written (chars.flatMap escapeChar) chars := by
    intro chars
    induction chars with
    | nil => exact written_ascii [] (by simp)
    | cons char chars ih => exact written_append (escape_written char) ih
  have closed := written_append (body text.toList) (written_ascii ['\x22'] (by decide))
  rw [append_nil] at closed
  exact written_cons (by decide) closed

theorem number_ascii {char : Char} (number : isNumberChar char = true) : isAscii char = true := by
  simp only [isNumberChar, Bool.or_eq_true, decide_eq_true_eq] at number
  rcases number with ((((digit | rfl) | rfl) | rfl) | rfl) | rfl
  · have low : '0'.toNat = 48 := rfl
    have high : '9'.toNat = 57 := rfl
    have bounds := Char.isDigit_iff_toNat.mp digit
    apply decide_eq_true
    omega
  all_goals decide

section

variable {blank : List Char}

mutual

theorem render_written (lawful : floats.Lawful) (ascii : blank.all isAscii = true) :
    ∀ value : Json, Written (renderWith floats blank value) value.texts
  | .null => written_ascii ['n', 'u', 'l', 'l'] (by decide)
  | .bool true => written_ascii ['t', 'r', 'u', 'e'] (by decide)
  | .bool false => written_ascii ['f', 'a', 'l', 's', 'e'] (by decide)
  | .int value => written_ascii _ (List.all_eq_true.mpr fun char mem =>
    number_ascii (int_text_number value char mem))
  | .float value => written_ascii _ (List.all_eq_true.mpr fun char mem =>
    number_ascii (float_token_number (lawful.token value) char mem))
  | .str text => string_written text
  | .arr items => written_cons (by decide) (items_written lawful ascii items)
  | .obj fields => written_cons (by decide) (fields_written lawful ascii fields)

theorem items_written (lawful : floats.Lawful) (ascii : blank.all isAscii = true) :
    ∀ items : List Json, Written (renderItemsWith floats blank items) (itemTexts items)
  | [] => written_ascii [']'] (by decide)
  | [item] => written_append (render_written lawful ascii item) (written_ascii [']'] (by decide))
  | item :: next :: rest =>
    written_append (render_written lawful ascii item) (written_cons (by decide)
      (written_front ascii (items_written lawful ascii (next :: rest))))

theorem fields_written (lawful : floats.Lawful) (ascii : blank.all isAscii = true) :
    ∀ fields : List (String × Json),
      Written (renderFieldsWith floats blank fields) (fieldTexts fields)
  | [] => written_ascii ['\x7d'] (by decide)
  | [(key, value)] =>
    written_append (string_written key) (written_cons (by decide) (written_front ascii
        (written_append (render_written lawful ascii value) (written_ascii ['\x7d'] (by decide)))))
  | (key, value) :: next :: rest =>
    written_append (string_written key) (written_cons (by decide) (written_front ascii
        (written_append (render_written lawful ascii value) (written_cons (by decide)
          (written_front ascii (fields_written lawful ascii (next :: rest)))))))

end

theorem spaced_written (lawful : floats.Lawful) (value : Json) :
    Written (renderSpaced floats value) value.texts := by
  rw [← render_with_space]
  exact render_written lawful (by decide) value

end

end

inductive TextState where
  | outside | inString | escaped
  deriving DecidableEq

/-- The line boundaries of `str.splitlines()` that `json.dumps` does not escape. -/
def isBreak (char : Char) : Bool :=
  char.toNat == 0x85 || char.toNat == 0x2028 || char.toNat == 0x2029

/-- `none` for a line break outside of a string and a control character inside one. -/
def TextState.next : TextState → Char → Option TextState
  | .outside, char =>
    if char = '\x22' then some .inString else if isBreak char then none else some .outside
  | .inString, char =>
    if char = '\x22' then some .outside
    else if char = '\x5c' then some .escaped
    else if char.toNat < 32 then none else some .inString
  | .escaped, char => if char.toNat < 32 then none else some .inString

def scan (state : TextState) (text : List Char) : Option TextState :=
  text.foldlM TextState.next state

def LeadsOut (state : TextState) (text rest : List Char) : Prop :=
  ∃ used, text = used ++ rest ∧ scan state used = some .outside

theorem leads_refl (text : List Char) : LeadsOut .outside text text := ⟨[], rfl, rfl⟩

variable {char : Char} {text rest : List Char} {floats : FloatText}

theorem leads_cons {state middle : TextState} (next : state.next char = some middle)
    (leads : LeadsOut middle text rest) :
    LeadsOut state (char :: text) rest := by
  obtain ⟨used, rfl, scanned⟩ := leads
  refine ⟨char :: used, rfl, ?_⟩
  rw [scan, foldlM_cons, next]
  exact scanned

theorem leads_trans {state : TextState} {text middle rest : List Char}
    (first : LeadsOut state text middle) (second : LeadsOut .outside middle rest) :
    LeadsOut state text rest := by
  obtain ⟨front, rfl, frontScan⟩ := first
  obtain ⟨back, rfl, backScan⟩ := second
  refine ⟨front ++ back, (append_assoc front back rest).symm, ?_⟩
  rw [scan, foldlM_append, show front.foldlM TextState.next state = _ from frontScan]
  exact backScan

def isPlain (char : Char) : Bool := char != '\x22' && !isBreak char

theorem leads_plain (used : List Char) (plain : used.all isPlain = true) (rest : List Char) :
    LeadsOut .outside (used ++ rest) rest := by
  induction used with
  | nil => exact leads_refl rest
  | cons char used ih =>
    simp only [all_cons, isPlain, Bool.and_eq_true, bne_iff_ne, Bool.not_eq_true'] at plain
    obtain ⟨⟨unquoted, unbroken⟩, later⟩ := plain
    apply leads_cons _ (ih later)
    rw [TextState.next, if_neg unquoted, unbroken]
    rfl

theorem leads_space (text : List Char) : LeadsOut .outside text (skipSpace text) := by
  have blank : (text.takeWhile isSpace).all isPlain = true := by
    rw [List.all_eq_true]
    intro char mem
    have space := mem_takeWhile_imp mem
    simp only [isSpace, Bool.or_eq_true, decide_eq_true_eq] at space
    rcases space with ((rfl | rfl) | rfl) | rfl <;> decide
  have parts := leads_plain _ blank (skipSpace text)
  rwa [skipSpace, takeWhile_append_dropWhile] at parts

theorem leads_number {value : Json} (parsed : parseNumber floats text = some (value, rest)) :
    LeadsOut .outside text rest := by
  have shape : rest = text.dropWhile isNumberChar := by
    unfold parseNumber at parsed
    dsimp only at parsed
    split at parsed
    · obtain ⟨float, -, same⟩ := map_eq_some_iff.mp parsed
      exact (Prod.mk.inj same).2.symm
    · split at parsed
      · exact (Prod.mk.inj (Option.some.inj parsed)).2.symm
      · cases parsed
  have numeral : (text.takeWhile isNumberChar).all isPlain = true := by
    rw [List.all_eq_true]
    intro char mem
    have number := mem_takeWhile_imp mem
    have ascii := of_decide_eq_true (number_ascii number)
    have unquoted : char ≠ '\x22' := by
      rintro rfl
      exact absurd number (by decide)
    have unbroken : isBreak char = false := by
      simp only [isBreak, Bool.or_eq_false_iff, beq_eq_false_iff_ne]
      omega
    simp [isPlain, unquoted, unbroken]
  have parts := leads_plain _ numeral (text.dropWhile isNumberChar)
  rw [takeWhile_append_dropWhile] at parts
  rwa [shape]

theorem leads_in_string (unquoted : char ≠ '\x22') (unescaped : char ≠ '\x5c')
    (printable : 32 ≤ char.toNat) (leads : LeadsOut .inString text rest) :
    LeadsOut .inString (char :: text) rest := by
  apply leads_cons _ leads
  rw [TextState.next, if_neg unquoted, if_neg unescaped, if_neg (by omega)]

theorem leads_escaped (printable : 32 ≤ char.toNat) (leads : LeadsOut .inString text rest) :
    LeadsOut .inString ('\x5c' :: char :: text) rest := by
  apply leads_cons rfl (leads_cons _ leads)
  rw [TextState.next, if_neg (by omega)]

theorem hex_plain {digit : Nat} (read : hexValue char = some digit) :
    char ≠ '\x22' ∧ char ≠ '\x5c' ∧ 32 ≤ char.toNat := by
  have low : '0'.toNat = 48 ∧ 'a'.toNat = 97 ∧ 'A'.toNat = 65 := ⟨rfl, rfl, rfl⟩
  have bounds : 48 ≤ char.toNat ∧ char.toNat ≠ 92 := by
    have upper : '9'.toNat = 57 ∧ 'f'.toNat = 102 ∧ 'F'.toNat = 70 := ⟨rfl, rfl, rfl⟩
    simp only [hexValue, Char.le_def, UInt32.le_iff_toNat_le] at read
    change (if '0'.toNat ≤ char.toNat ∧ char.toNat ≤ '9'.toNat then _
      else if 'a'.toNat ≤ char.toNat ∧ char.toNat ≤ 'f'.toNat then _
      else if 'A'.toNat ≤ char.toNat ∧ char.toNat ≤ 'F'.toNat then _ else _) = _ at read
    split at read
    · omega
    split at read
    · omega
    split at read
    · omega
    · cases read
  refine ⟨?_, ?_, by omega⟩
  · rintro rfl
    exact absurd bounds.1 (by decide)
  · rintro rfl
    exact absurd bounds.2 (by decide)

theorem unescape_plain {mark char : Char} (short : unescape mark = some char) :
    32 ≤ mark.toNat := by
  have table : ∀ entry ∈ ('/', '/') :: shortEscapes, 32 ≤ entry.2.toNat := by decide
  obtain ⟨entry, found, -⟩ := map_eq_some_iff.mp short
  have same : entry.2 = mark := by simpa using find?_some found
  exact same ▸ table entry (mem_of_find?_eq_some found)

theorem leads_hex {first second third fourth : Char} {unit : Nat}
    (read : hexUnit first second third fourth = some unit) (leads : LeadsOut .inString text rest) :
    LeadsOut .inString ('\x5c' :: 'u' :: first :: second :: third :: fourth :: text) rest := by
  simp only [hexUnit, bind, bind_eq_some_iff] at read
  obtain ⟨_, one, _, two, _, three, _, four, -⟩ := read
  obtain ⟨q1, e1, p1⟩ := hex_plain one
  obtain ⟨q2, e2, p2⟩ := hex_plain two
  obtain ⟨q3, e3, p3⟩ := hex_plain three
  obtain ⟨q4, e4, p4⟩ := hex_plain four
  exact leads_escaped (by decide) (leads_in_string q1 e1 p1 (leads_in_string q2 e2 p2
    (leads_in_string q3 e3 p3 (leads_in_string q4 e4 p4 leads))))

theorem push_char_some {parsed : Option (List Char × List Char)} {chars rest : List Char}
    (pushed : pushChar char parsed = some (chars, rest)) :
    ∃ inner, parsed = some (inner, rest) := by
  obtain ⟨inner, same, ⟨⟩⟩ := map_eq_some_iff.mp pushed
  exact ⟨inner.1, same⟩

theorem leads_string (text : List Char) : ∀ {chars rest : List Char},
    parseString text = some (chars, rest) → LeadsOut .inString text rest := by
  fun_induction parseString text with
  | case2 rest =>
    rintro _ _ ⟨⟩
    exact leads_cons rfl (leads_refl rest)
  | case4 first second third fourth unit read high fifth sixth seventh eighth later low lowRead
      range ih =>
      intro chars next parsed
      obtain ⟨_, inner⟩ := push_char_some parsed
      exact leads_hex read (leads_hex lowRead (ih inner))
  | case9 first second third fourth rest unit read notHigh notLow ih =>
    intro chars next parsed
    obtain ⟨_, inner⟩ := push_char_some parsed
    exact leads_hex read (ih inner)
  | case10 mark rest other ih =>
    intro chars next parsed
    obtain ⟨char, short, pushed⟩ := bind_eq_some_iff.mp parsed
    obtain ⟨_, inner⟩ := push_char_some pushed
    exact leads_escaped (unescape_plain short) (ih inner)
  | case12 char rest unquoted noUnit unmarked printable ih =>
    intro chars next parsed
    obtain ⟨_, inner⟩ := push_char_some parsed
    have unescaped : char ≠ '\x5c' := by
      rintro rfl
      cases rest with
      | nil => cases inner
      | cons mark rest => exact unmarked mark rest rfl rfl
    exact leads_in_string unquoted unescaped (by omega) (ih inner)
  | _ =>
    intro chars next parsed
    cases parsed

theorem leads_value (floats : FloatText) (fuel : Nat) : (∀ {text rest : List Char} {value : Json},
      parseValue floats fuel text = some (value, rest) → LeadsOut .outside text rest) ∧
    (∀ {text rest : List Char} {items : List Json},
      parseItems floats fuel text = some (items, rest) → LeadsOut .outside text rest) ∧
    ∀ {text rest : List Char} {fields : List (String × Json)},
      parseFields floats fuel text = some (fields, rest) → LeadsOut .outside text rest := by
  induction fuel with
  | zero =>
    refine ⟨?_, ?_, ?_⟩
    · intro text rest value parsed
      cases parsed
    · intro text rest items parsed
      cases parsed
    · intro text rest fields parsed
      cases parsed
  | succ fuel ih =>
    obtain ⟨valueLeads, itemsLeads, fieldsLeads⟩ := ih
    have mark : ∀ (char : Char) (text : List Char), isPlain char = true →
        LeadsOut .outside (char :: text) text := fun char text plain =>
      leads_plain [char] (by simpa using plain) text
    have spaced : ∀ {char : Char} {text rest : List Char}, skipSpace text = char :: rest →
        isPlain char = true → LeadsOut .outside text rest := by
      intro char text rest same plain
      exact leads_trans (same ▸ leads_space text) (mark char rest plain)
    refine ⟨?_, ?_, ?_⟩
    · intro text rest value parsed
      unfold parseValue at parsed
      split at parsed
      · next text =>
        obtain ⟨inner, read, ⟨⟩⟩ := map_eq_some_iff.mp parsed
        exact leads_cons rfl (leads_string text read)
      · next text =>
        split at parsed
        · next closed =>
          cases parsed
          exact leads_trans (mark '[' text (by decide)) (spaced closed (by decide))
        · obtain ⟨inner, read, ⟨⟩⟩ := map_eq_some_iff.mp parsed
          exact leads_trans (mark '[' text (by decide))
            (leads_trans (leads_space text) (itemsLeads read))
      · next text =>
        split at parsed
        · next closed =>
          cases parsed
          exact leads_trans (mark '\x7b' text (by decide)) (spaced closed (by decide))
        · obtain ⟨inner, read, ⟨⟩⟩ := map_eq_some_iff.mp parsed
          exact leads_trans (mark '\x7b' text (by decide))
            (leads_trans (leads_space text) (fieldsLeads read))
      · cases parsed
        exact leads_plain ['n', 'u', 'l', 'l'] (by decide) rest
      · cases parsed
        exact leads_plain ['t', 'r', 'u', 'e'] (by decide) rest
      · cases parsed
        exact leads_plain ['f', 'a', 'l', 's', 'e'] (by decide) rest
      · exact leads_number parsed
    · intro text rest items parsed
      obtain ⟨⟨item, next⟩, read, remaining⟩ := bind_eq_some_iff.mp parsed
      have first := valueLeads read
      dsimp only at remaining
      split at remaining
      · next closed =>
        cases remaining
        exact leads_trans first (spaced closed (by decide))
      · next after comma =>
        obtain ⟨⟨items, later⟩, read, ⟨⟩⟩ := bind_eq_some_iff.mp remaining
        exact leads_trans first (leads_trans (spaced comma (by decide))
          (leads_trans (leads_space after) (itemsLeads read)))
      · cases remaining
    · intro text rest fields parsed
      unfold parseFields at parsed
      split at parsed
      · next inner text same =>
        cases same
        obtain ⟨⟨key, next⟩, named, remaining⟩ := bind_eq_some_iff.mp parsed
        have first : LeadsOut .outside ('\x22' :: text) next :=
          leads_cons rfl (leads_string text named)
        dsimp only at remaining
        split at remaining
        · next after colon =>
          obtain ⟨⟨value, afterValue⟩, read, closing⟩ := bind_eq_some_iff.mp remaining
          have second := leads_trans first (leads_trans (spaced colon (by decide))
            (leads_trans (leads_space after) (valueLeads read)))
          dsimp only at closing
          split at closing
          · next closed =>
            cases closing
            exact leads_trans second (spaced closed (by decide))
          · next later comma =>
            obtain ⟨⟨fields, last⟩, read, ⟨⟩⟩ := bind_eq_some_iff.mp closing
            exact leads_trans second (leads_trans (spaced comma (by decide))
              (leads_trans (leads_space later) (fieldsLeads read)))
          · cases closing
        · cases remaining
      · cases parsed

theorem loads_scan {text : String} {value : Json} (read : jsonLoads floats text = some value) :
    scan .outside text.toList = some .outside := by
  have ends : LeadsOut .outside text.toList [] := by
    unfold jsonLoads at read
    split at read
    · next result rest parsed =>
      obtain ⟨blank, -⟩ := ite_none_right_eq_some.mp read
      have last := leads_space rest
      rw [blank] at last
      exact leads_trans (leads_space _) (leads_trans ((leads_value floats _).1 parsed) last)
    · cases read
  obtain ⟨used, same, scanned⟩ := ends
  rwa [same, append_nil]

end AgentMate
