import BoundSql.Text.Alphanumeric
import BoundSql.Text.Space

/-!
# Environment files

Files of lines `KEY=value` that define variables. A line may begin with `export`, a
comment begins with a number sign, and a value may be quoted. Single quotes keep all
characters; elsewhere a backslash escapes the next character and a dollar sign inserts a
variable. A quoted value may span lines. A variable that is already defined keeps its
value, so of two definitions in a file the first one counts.
-/

namespace BoundSql.Environment

open Text (isAlphanumeric isSpace withoutMark)

/-- The variables that are defined, with their values. -/
abbrev Variables := List (String × String)

/-- The value under a name. An environment is a row of texts `key=value`, and a name stands
for what follows it and an equals sign, so a name may reach into a value. -/
def valueUnder? (known : Variables) (name : String) : Option String :=
  let start := (name ++ "=").toList
  known.findSome? fun (key, value) =>
    let definition := (key ++ "=" ++ value).toList
    if start.isPrefixOf definition then some (String.ofList (definition.drop start.length))
    else none

/-- Where the end of a line leaves a value. -/
inductive LineState where
  /-- Outside quotation marks. -/
  | complete
  /-- Behind a backslash. -/
  | escape
  /-- Behind one white space character. -/
  | space
  /-- Between quotation marks. -/
  | quoted (mark : Char)
  /-- Between quotation marks and behind a backslash. -/
  | quotedEscape (mark : Char)
deriving DecidableEq, Repr

namespace LineState

/-- The state behind a character that may open a quotation. -/
def opened : Char → LineState
  | '\\' => .escape
  | '\x22' => .quoted '\x22'
  | '\x27' => .quoted '\x27'
  | _ => .complete

/-- The state behind one more character. -/
def next : LineState → Char → LineState
  | .complete, c => if isSpace c && c != '\n' && c != '\r' then .space else opened c
  | .space, c => opened c
  | .escape, _ => .complete
  | .quoted mark, c =>
    if c = '\\' then .quotedEscape mark else if c = mark then .complete else .quoted mark
  | .quotedEscape mark, _ => .quoted mark

/-- The text of a line in front of a comment and the state at its end. A comment begins
behind a single white space character. -/
def scan : LineState → List Char → List Char × Option LineState
  | state, [] => ([], some state)
  | state, c :: rest =>
    if state = .space ∧ c = '#' then ([], none)
    else
      let (kept, last) := scan (state.next c) rest
      (c :: kept, last)

end LineState

/-- The lines of a text, each with its line feed. -/
def lines : List Char → List (List Char)
  | [] => []
  | '\n' :: rest => ['\n'] :: lines rest
  | c :: rest =>
    match lines rest with
    | [] => [[c]]
    | line :: more => (c :: line) :: more

/-- The text without its line end. -/
def withoutLineEnd (text : List Char) : List Char :=
  match text.reverse with
  | '\n' :: '\r' :: rest => rest.reverse
  | '\n' :: rest => rest.reverse
  | _ => text

/-- The definitions of a file, each on one line or on the lines its quotation marks span.
`held` is the part of a definition that has been read. A file may not end within one. -/
def definitions (held : List Char) (state : LineState) :
    List (List Char) → Option (List (List Char))
  | [] => if state = .complete then some [] else none
  | line :: rest =>
    let text := held ++ line
    if (text.dropWhile isSpace).head? = some '#' then definitions [] .complete rest
    else match state.scan line with
      | (kept, none) => (definitions [] .complete rest).map ((held ++ kept) :: ·)
      | (_, some .complete) => (definitions [] .complete rest).map (withoutLineEnd text :: ·)
      | (_, some state) => definitions text state rest

/-- A variable whose value is being inserted: its name so far, in braces or not. -/
structure Insertion where
  /-- The name is written in braces. -/
  braced : Bool
  /-- The name so far. -/
  name : List Char
deriving DecidableEq, Repr

/-- What has been read of a value. -/
structure ValueState where
  /-- The text of the value so far. -/
  output : List Char
  /-- Between single quotation marks. -/
  strong : Bool
  /-- Between double quotation marks. -/
  weak : Bool
  /-- Behind a backslash. -/
  escaped : Bool
  /-- Behind a blank, where only a comment may follow. -/
  ended : Bool
  /-- The variable that is being inserted. -/
  insertion : Option Insertion

namespace ValueState

/-- Nothing has been read. -/
def initial : ValueState := ⟨[], false, false, false, false, none⟩

/-- The state with a character kept. -/
def keep (s : ValueState) (c : Char) : ValueState := { s with output := s.output ++ [c] }

/-- The state with a variable inserted. -/
def inserted (lookup : String → String) (name : List Char) (s : ValueState) : ValueState :=
  { s with
    output := s.output ++ (lookup (String.ofList name)).toList
    insertion := none }

/-- The state behind a character while the name of a variable is read. -/
def insertionNext (lookup : String → String) (s : ValueState) (insertion : Insertion) (c : Char) :
    ValueState :=
  let longer := { s with insertion := some { insertion with name := insertion.name ++ [c] } }
  if isAlphanumeric c then longer
  else if insertion.braced then
    if c = '\x7d' then s.inserted lookup insertion.name else longer
  else if c = '\x7b' ∧ insertion.name = [] then { s with insertion := some ⟨true, []⟩ }
  else
    let s := s.inserted lookup insertion.name
    if c = '$' then { s with insertion := some ⟨false, []⟩ } else s.keep c

/-- The character an escape stands for. -/
def escape? (c : Char) : Option Char :=
  if c = 'n' then some '\n'
  else if c = '\\' ∨ c = '\x27' ∨ c = '\x22' ∨ c = '$' ∨ c = ' ' then some c
  else none

/-- The state behind a character outside comments and insertions. -/
def next? (lookup : String → String) (s : ValueState) (c : Char) : Option ValueState :=
  if s.escaped then (escape? c).map fun c => { s.keep c with escaped := false }
  else if s.strong then
    some (if c = '\x27' then { s with strong := false } else s.keep c)
  else match s.insertion with
    | some insertion => some (s.insertionNext lookup insertion c)
    | none =>
      if c = '$' then some { s with insertion := some ⟨false, []⟩ }
      else if c = '\\' then some { s with escaped := true }
      else if c = '\x22' then some { s with weak := !s.weak }
      else if s.weak then some (s.keep c)
      else if c = '\x27' then some { s with strong := true }
      else if c = ' ' ∨ c = '\t' then some { s with ended := true }
      else some (s.keep c)

/-- The value if it ends here. Quotation marks and braces have to be closed. -/
def ended? (lookup : String → String) (s : ValueState) : Option (List Char) :=
  if s.strong || s.weak || s.insertion.any (·.braced) then none
  else match s.insertion with
    | some insertion => some (s.inserted lookup insertion.name).output
    | none => some s.output

end ValueState

/-- The value at the end of a definition. Behind a blank only a comment may follow. -/
def value? (lookup : String → String) : ValueState → List Char → Option (List Char)
  | s, [] => s.ended? lookup
  | s, c :: rest =>
    if s.ended then
      if c = ' ' ∨ c = '\t' then value? lookup s rest
      else if c = '#' then s.ended? lookup
      else none
    else (s.next? lookup c).bind (value? lookup · rest)

/-- The characters of a key. -/
def inKey (c : Char) : Bool := c.isAlphanum || c == '_' || c == '.'

/-- A key, which begins with a letter or an underscore, and the rest behind white space. -/
def key? (text : List Char) : Option (String × List Char) :=
  match text with
  | c :: _ =>
    if c.isAlpha || c == '_' then
      some (String.ofList (text.takeWhile inKey), (text.dropWhile inKey).dropWhile isSpace)
    else none
  | [] => none

/-- The key of a definition and the text behind its equals sign, where `export` may stand
in front of the key or be the key itself. -/
def keyed? (text : List Char) : Option (String × List Char) := do
  match ← key? text with
  | (key, '=' :: rest) => return (key, rest)
  | ("export", rest) =>
    match ← key? rest with
    | (key, '=' :: rest) => return (key, rest)
    | _ => none
  | _ => none

/-- The variables a file is read with: those that count, and the last definition of each
key in the file. -/
structure Reading where
  /-- The variables that count. -/
  known : Variables
  /-- The definitions of the file so far, the last one first. -/
  defined : Variables

namespace Reading

/-- The value that is inserted for a variable; an unknown one is empty. -/
def valueOf (r : Reading) (name : String) : String :=
  (valueUnder? r.known name <|> r.defined.lookup name).getD ""

/-- The variables after a definition. One that is defined keeps its value. -/
def define (r : Reading) (key value : String) : Reading :=
  { known := if (r.known.lookup key).isSome then r.known else r.known ++ [(key, value)]
    defined := (key, value) :: r.defined }

/-- The variables after a line of a file; none if the line is malformed. -/
def line? (r : Reading) (text : List Char) : Option Reading :=
  let trimmed := ((text.reverse.dropWhile isSpace).reverse).dropWhile isSpace
  if trimmed = [] ∨ trimmed.head? = some '#' then some r
  else do
    let (key, rest) ← keyed? trimmed
    let rest := rest.dropWhile isSpace
    let value ←
      if rest = [] ∨ rest.head? = some '#' then some []
      else value? r.valueOf .initial rest
    return r.define key (String.ofList value)

end Reading

/-- The variables after a file has been read; none if a line is malformed. -/
def load? (initial : Variables) (text : String) : Option Variables := do
  let definitions ← definitions [] .complete (lines (withoutMark text.toList))
  let reading ← definitions.foldlM Reading.line? ⟨initial, []⟩
  return reading.known

end BoundSql.Environment
