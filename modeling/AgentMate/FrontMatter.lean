import AgentMate.JsonText
import AgentMate.PlainText

/-!
# The front matter of a `SKILL.md`

The App reads the lines between two fences as a dictionary of texts and lists of texts. What
it does not understand is skipped. The rest of the file is the body.
-/

namespace AgentMate.FrontMatter

open PlainText

def isBlank (char : Char) : Bool := char = ' ' || char = '\t'

def unquote? (quote : Char) (chars : List Char) : Option (List Char) :=
  if 2 ≤ chars.length ∧ chars.head? = some quote ∧ chars.getLast? = some quote then
    some chars.tail.dropLast
  else none

def scalar (floats : FloatText) (text : List Char) : String :=
  let chars := stripChars text
  match unquote? '\x22' chars with
  | some inner =>
    match jsonLoads floats (String.ofList chars) with
    | some (.str value) => value
    | _ => String.ofList inner
  | none => String.ofList ((unquote? '\'' chars).getD chars)

def splitCommas : List Char → List Char → Option Char → List (List Char)
  | [], current, _ => [current]
  | char :: rest, current, some quote =>
    splitCommas rest (current ++ [char]) (if char = quote then none else some quote)
  | char :: rest, current, none =>
    if char = '\x22' ∨ char = '\'' then splitCommas rest (current ++ [char]) (some char)
    else if char = ',' then current :: splitCommas rest [] none
    else splitCommas rest (current ++ [char]) none

def splitInlineList (floats : FloatText) (inner : List Char) : List String :=
  ((splitCommas inner [] none).filter fun part => stripChars part ≠ []).map (scalar floats)

/-- The characters that `str.splitlines()` ends a line at. -/
def endsLine (char : Char) : Bool :=
  let code := char.toNat
  (10 ≤ code && code ≤ 13) || (28 ≤ code && code ≤ 30) || code == 0x85 || code == 0x2028 ||
    code == 0x2029

/-- `str.splitlines()`, with the line that is read now. -/
def splitLines : List Char → List Char → List (List Char)
  | [], [] => []
  | [], current => [current]
  | '\r' :: '\n' :: rest, current => current :: splitLines rest []
  | char :: rest, current =>
    if endsLine char then current :: splitLines rest [] else splitLines rest (current ++ [char])

def isKeyChar (char : Char) : Bool :=
  ('A' ≤ char && char ≤ 'Z') || ('a' ≤ char && char ≤ 'z') || ('0' ≤ char && char ≤ '9') ||
    char = '_' || char = '-'

/-- `_KEY_RE`: the key, and the value without the space around it. -/
def keyLine (line : List Char) : Option (String × List Char) :=
  let key := line.takeWhile isKeyChar
  match line.dropWhile isKeyChar with
  | ':' :: value => if key = [] then none else some (String.ofList key, stripChars value)
  | _ => none

/-- `_ITEM_RE`: the item of a block list. -/
def itemLine (line : List Char) : Option (List Char) :=
  match line.takeWhile isBlank, line.dropWhile isBlank with
  | _ :: _, '-' :: item => some (item.dropWhile isBlank)
  | _, _ => none

def isComment (line : List Char) : Bool :=
  stripChars line = [] || (line.dropWhile isWhitespace).head? = some '#'

def blockValue (floats : FloatText) (lines : List (List Char)) : Json :=
  match ((lines.takeWhile fun line => (itemLine line).isSome).filterMap itemLine) with
  | [] => .str ""
  | items => .arr (items.map fun item => .str (scalar floats item))

def lineValue (floats : FloatText) (value : List Char) (following : List (List Char)) : Json :=
  if value = [] then blockValue floats following
  else if value.head? = some '[' ∧ value.getLast? = some ']' then
    .arr ((splitInlineList floats (stripChars value.tail.dropLast)).map Json.str)
  else .str (scalar floats value)

def linePairs (floats : FloatText) : List (List Char) → List (String × Json)
  | [] => []
  | line :: rest =>
    match if isComment line then none else keyLine line with
    | some (key, value) => (key, lineValue floats value rest) :: linePairs floats rest
    | none => linePairs floats rest

def afterMark? (mark : String) (text : List Char) : Option (List Char) :=
  if mark.toList.isPrefixOf text then some (text.drop mark.toList.length) else none

/-- `\r?\n---`. -/
def closing? (text : List Char) : Option (List Char) :=
  (afterMark? "\r\n---" text).orElse fun _ => afterMark? "\n---" text

def splitFence : List Char → Option (List Char × List Char)
  | [] => none
  | char :: rest =>
    match closing? (char :: rest) with
    | some after => some ([], after)
    | none => (splitFence rest).map fun split => (char :: split.1, split.2)

/-- `[ \t]*\r?\n?`. -/
def afterFence (text : List Char) : List Char :=
  let rest := text.dropWhile isBlank
  let unreturned := if rest.head? = some '\r' then rest.tail else rest
  if unreturned.head? = some '\n' then unreturned.tail else unreturned

/-- `---[ \t]*\r?\n`. -/
def opening? (text : List Char) : Option (List Char) :=
  (afterMark? "---" text).bind fun rest =>
    (afterMark? "\r\n" (rest.dropWhile isBlank)).orElse fun _ =>
      afterMark? "\n" (rest.dropWhile isBlank)

def unmarked (text : List Char) : List Char :=
  if text.head? = some '\ufeff' then text.tail else text

def parseFrontmatter (floats : FloatText) (markdown : String) : Json × String :=
  let text := unmarked markdown.toList
  match (opening? text).bind splitFence with
  | some (lines, after) =>
    (.obj (dictOf (linePairs floats (splitLines lines []))), String.ofList (afterFence after))
  | none => (.obj [], String.ofList text)

end AgentMate.FrontMatter
