import BoundSql.Text.Space
import BoundSql.Toml.Quoted

/-!
# TOML documents

Reads a document into the tree of its tables. Lists and inline tables may span lines, with
comments between their parts, and end in a comma; they nest at most eighty deep, and a
dotted key has at most eighty parts. Everything that is not a document gives no tree: there
is no partial result.
-/

namespace BoundSql.Toml

/-- How deep lists and inline tables may nest, and how many parts a dotted key may have. -/
def maximumDepth : Nat := 80

/-- The text without blanks at its beginning. -/
def skipBlanks (text : List Char) : List Char := text.dropWhile isBlank

/-- The text behind blanks, line ends and comments. In a comment control characters are
refused. -/
def skipLines? (inComment : Bool) : List Char → Option (List Char)
  | [] => some []
  | '\n' :: rest => skipLines? false rest
  | '\r' :: '\n' :: rest => skipLines? false rest
  | c :: rest =>
    if inComment then if Quoted.isPlain c then skipLines? true rest else none
    else if isBlank c then skipLines? false rest
    else if c = '#' then skipLines? true rest
    else some (c :: rest)

/-- The rest behind the end of a line, which only blanks and a comment may precede. -/
def lineEnd? (text : List Char) : Option (List Char) :=
  let rest := match skipBlanks text with
    | '#' :: rest => rest.dropWhile Quoted.isPlain
    | rest => rest
  match rest with
  | [] => some []
  | '\n' :: rest => some rest
  | '\r' :: '\n' :: rest => some rest
  | _ => none

/-- A character of a key without quotation marks. -/
def inBareKey (c : Char) : Bool := c.isAlphanum || c == '_' || c == '-'

/-- One key, bare or quoted on one line, and the rest. -/
def simpleKey? (text : List Char) : Option (String × List Char) :=
  match text with
  | '\x22' :: rest => (Quoted.basic? rest).map fun (key, rest) => (String.ofList key, rest)
  | '\x27' :: rest => (Quoted.literal? rest).map fun (key, rest) => (String.ofList key, rest)
  | _ =>
    match text.takeWhile inBareKey with
    | [] => none
    | key => some (String.ofList key, text.dropWhile inBareKey)

/-- A dotted key of at most `parts` parts, split into the path before its last part and that
part, and the rest. -/
def keyOf? : Nat → List Char → Option (List String × String × List Char)
  | 0, _ => none
  | parts + 1, text => do
    let (key, rest) ← simpleKey? (skipBlanks text)
    match skipBlanks rest with
    | '.' :: rest =>
      let (path, last, rest) ← keyOf? parts rest
      return (key :: path, last, rest)
    | rest => return ([], key, rest)

/-- A dotted key, split into its path and its last part, and the rest. -/
def dottedKey? (text : List Char) : Option (List String × String × List Char) :=
  keyOf? maximumDepth text

mutual

/-- A value and the rest. The bound is at least the length of the text; `depth` is how
deep lists and inline tables may still nest. -/
def value? : Nat → Nat → List Char → Option (Node × List Char)
  | 0, _, _ => none
  | bound + 1, depth, text =>
    match text with
    | '[' :: rest =>
      if depth = 0 then none else do
        let (items, rest) ← items? bound (depth - 1) rest
        return (.array items false, rest)
    | '\x7b' :: rest =>
      if depth = 0 then none else inlineTable? bound (depth - 1) (.inline, []) rest
    | c :: rest =>
      if c = '\x22' ∨ c = '\x27' then
        (Quoted.read? (c :: rest)).map fun (content, rest) => (.string (String.ofList content), rest)
      else
        let (word, rest) := Scalar.word (c :: rest)
        (Scalar.node? word).map (·, rest)
    | [] => none

/-- The items of a list up to its closing bracket, separated by commas. -/
def items? : Nat → Nat → List Char → Option (List Node × List Char)
  | 0, _, _ => none
  | bound + 1, depth, text => do
    match ← skipLines? false text with
    | ']' :: rest => return ([], rest)
    | text =>
      let (item, rest) ← value? bound depth text
      match ← skipLines? false rest with
      | ',' :: rest =>
        let (items, rest) ← items? bound depth rest
        return (item :: items, rest)
      | ']' :: rest => return ([item], rest)
      | _ => none

/-- The entries of an inline table up to its closing brace, added to those in `table`. -/
def inlineTable? : Nat → Nat → Table → List Char → Option (Node × List Char)
  | 0, _, _, _ => none
  | bound + 1, depth, table, text => do
    match ← skipLines? false text with
    | '\x7d' :: rest => return (table.node, rest)
    | text =>
      let (path, key, rest) ← dottedKey? text
      match ← skipLines? false rest with
      | '=' :: rest =>
        let (item, rest) ← value? bound depth (← skipLines? false rest)
        let table ← table.insert path key item
        match ← skipLines? false rest with
        | ',' :: rest => inlineTable? bound depth table rest
        | '\x7d' :: rest => return (table.node, rest)
        | _ => none
      | _ => none

end

/-- Reads the lines of a document. `current` is the path of the table that keys are added
to. The bound is at least the length of the text. -/
def lines? : Nat → List String → Table → List Char → Option Table
  | 0, _, _, _ => none
  | bound + 1, current, root, text => do
    match ← skipLines? false text with
    | [] => return root
    | '[' :: '[' :: rest =>
      let (path, key, rest) ← dottedKey? rest
      match rest with
      | ']' :: ']' :: rest =>
        let root ← root.openElement path key
        lines? bound (path ++ [key]) root (← lineEnd? rest)
      | _ => none
    | '[' :: rest =>
      let (path, key, rest) ← dottedKey? rest
      match rest with
      | ']' :: rest =>
        let root ← root.openTable path key
        lines? bound (path ++ [key]) root (← lineEnd? rest)
      | _ => none
    | text =>
      let (path, key, rest) ← dottedKey? text
      match rest with
      | '=' :: rest =>
        let (item, rest) ← value? bound maximumDepth (skipBlanks rest)
        let root ← root.descend false current (·.insert path key item)
        lines? bound current root (← lineEnd? rest)
      | _ => none

/-- The entries of a document. -/
def document? (text : String) : Option Entries :=
  let text := Text.withoutMark text.toList
  (lines? (text.length + 1) [] (.header, []) text).map Prod.snd

end BoundSql.Toml
