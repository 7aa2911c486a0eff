/-!
# TOML trees

The tree a TOML document describes, and the rules by which headers and dotted keys add to
it. A table remembers how it came to be: a header opens a table once, dotted keys extend
only tables that dotted keys or a longer header made, and an inline table is closed. A
number without a value is a node like any other; it is for the reader of the tree to refuse
it.
-/

namespace BoundSql.Toml

/-- How a table came to be. -/
inductive TableKind where
  /-- Opened by a header of its own. -/
  | header
  /-- Passed through by a longer header. -/
  | implicit
  /-- Passed through by a dotted key. -/
  | dotted
  /-- Written in one place. -/
  | inline
deriving DecidableEq, Repr

/-- A node of a document. -/
inductive Node where
  /-- A text. -/
  | string (text : String)
  /-- An integer. -/
  | integer (value : Int)
  /-- A truth value. -/
  | boolean (value : Bool)
  /-- A floating-point number, as it is written. -/
  | float (literal : String)
  /-- A number that is let through without a value. -/
  | valueless
  /-- A date, a time or both, as it is written. -/
  | dateTime (literal : String)
  /-- A list of nodes; `ofTables` if headers made it. -/
  | array (items : List Node) (ofTables : Bool)
  /-- A table, its keys in the order of their first occurrence. -/
  | table (kind : TableKind) (entries : List (String × Node))
deriving Repr

/-- The entries of a table. -/
abbrev Entries := List (String × Node)

mutual

/-- Whether every number in a node has a value. -/
def Node.hasValue : Node → Bool
  | .valueless => false
  | .array items _ => Node.allHaveValue items
  | .table _ entries => Entries.haveValue entries
  | _ => true

/-- Whether every number in a list of nodes has a value. -/
def Node.allHaveValue : List Node → Bool
  | [] => true
  | node :: rest => node.hasValue && Node.allHaveValue rest

/-- Whether every number in the entries of a table has a value. -/
def Entries.haveValue : Entries → Bool
  | [] => true
  | (_, node) :: rest => node.hasValue && Entries.haveValue rest

end

/-- A table under construction. -/
abbrev Table := TableKind × Entries

namespace Table

/-- The node of a table. -/
def node (table : Table) : Node := .table table.1 table.2

/-- Changes the entry of a key by `change`, which is told whether there is one. -/
def change (key : String) (update : Option Node → Option Node) : Entries → Option Entries
  | [] => (update none).map fun node => [(key, node)]
  | (name, node) :: rest =>
    if name = key then (update (some node)).map fun node => (key, node) :: rest
    else (change key update rest).map ((name, node) :: ·)

/-- Changes the table at the end of a path. Missing tables on the way are made; a path of
a dotted key passes no table that a header opened, and no path passes an inline table. A
list of tables stands for its last one. -/
def descend (ofKey : Bool) : List String → (Table → Option Table) → Table → Option Table
  | [], update, table => update table
  | key :: path, update, (kind, entries) => do
    let entries ← change key (fun
      | none =>
        (descend ofKey path update (if ofKey then .dotted else .implicit, [])).map node
      | some (.table inner content) =>
        if inner = .inline || ofKey && inner = .header then none
        else (descend ofKey path update (inner, content)).map node
      | some (.array items true) =>
        match items.getLast? with
        | some (.table inner content) =>
          (descend ofKey path update (inner, content)).map fun last =>
            .array (items.dropLast ++ [node last]) true
        | _ => none
      | some _ => none) entries
    return (kind, entries)

/-- Adds a node under a dotted key: the path before the last key, and the last key. The
key has to be new, and its table has to be written in the same manner. -/
def insert (path : List String) (key : String) (node : Node) : Table → Option Table :=
  descend true path fun (kind, entries) =>
    if (kind = .dotted) == path.isEmpty then none
    else (change key (fun | none => some node | some _ => none) entries).map (kind, ·)

/-- Opens the table of a header. -/
def openTable (path : List String) (key : String) : Table → Option Table :=
  descend false path fun (kind, entries) =>
    (change key (fun
      | none => some (.table .header [])
      | some (.table .implicit content) => some (.table .header content)
      | some _ => none) entries).map (kind, ·)

/-- Adds a table to the list of tables of a header. -/
def openElement (path : List String) (key : String) : Table → Option Table :=
  descend false path fun (kind, entries) =>
    (change key (fun
      | none => some (.array [.table .header []] true)
      | some (.array items true) => some (.array (items ++ [.table .header []]) true)
      | some _ => none) entries).map (kind, ·)

end Table

end BoundSql.Toml
