import BoundSql.Condition

/-!
# Blocks

A filter tree: conditions, raw texts and nested blocks in a row, each after the first
linked to the one before it by a combinator. `push` checks that a combinator is given
exactly from the second part on; the `add` family chooses it by position instead. A
nested block without parts is never kept.
-/

namespace BoundSql

mutual

/-- One element of a block. -/
inductive Part where
  /-- A comparison. -/
  | condition (condition : Condition)
  /-- A nested block, in parentheses. -/
  | group (block : Block)
  /-- Raw text without values. -/
  | text (text : String)

/-- A row of parts, each with the combinator that links it to the one before. -/
inductive Block where
  /-- No part. -/
  | empty
  /-- A part with its link, followed by others. -/
  | entry (link : Option Combinator) (part : Part) (rest : Block)

end

deriving instance DecidableEq for Part, Block
deriving instance Repr for Part, Block

instance : Inhabited Block := ⟨.empty⟩
instance : Inhabited Part := ⟨.group .empty⟩

namespace Block

/-- Whether a block has no part. -/
def isEmpty : Block → Bool
  | empty => true
  | entry .. => false

/-- The parts with their links, in order. -/
def entries : Block → List (Option Combinator × Part)
  | empty => []
  | entry link part rest => (link, part) :: rest.entries

/-- The block with the given entries. -/
def ofEntries : List (Option Combinator × Part) → Block
  | [] => empty
  | (link, part) :: rest => entry link part (ofEntries rest)

/-- The parts, in order. -/
def parts (block : Block) : List Part := block.entries.map Prod.snd

/-- The combinators between the parts, in order. -/
def combinators (block : Block) : List Combinator := block.entries.filterMap Prod.fst

/-- How many parts a block has. -/
def length (block : Block) : Nat := block.entries.length

/-- The block with one more part at its end. -/
def append (block : Block) (link : Option Combinator) (part : Part) : Block :=
  match block with
  | empty => entry link part empty
  | entry link' part' rest => entry link' part' (rest.append link part)

/-- Entries are what a block is made of. -/
@[simp] theorem ofEntries_entries : (block : Block) → ofEntries block.entries = block
  | empty => rfl
  | entry link part rest => by simp [entries, ofEntries, ofEntries_entries rest]

/-- A block has the entries it is made of. -/
@[simp] theorem entries_ofEntries (entries : List (Option Combinator × Part)) :
    (ofEntries entries).entries = entries := by
  induction entries with
  | nil => rfl
  | cons head rest ih => simp [ofEntries, Block.entries, ih]

/-- A part is appended at the end of the entries. -/
@[simp] theorem entries_append (link : Option Combinator) (part : Part) :
    (block : Block) → (block.append link part).entries = block.entries ++ [(link, part)]
  | empty => rfl
  | entry link' part' rest => by simp [append, entries, entries_append link part rest]

/-- A block has a part once one was appended. -/
theorem append_ne_empty (link : Option Combinator) (part : Part) (block : Block) :
    block.append link part ≠ .empty := by
  cases block <;> simp [append]

/-- A block is empty exactly if it has no entry. -/
theorem isEmpty_iff {block : Block} : block.isEmpty = true ↔ block = empty := by
  cases block <;> simp [isEmpty]

/-- Whether a part is a nested block without parts. -/
def vacuous : Part → Bool
  | .group block => block.isEmpty
  | _ => false

/-- Appends a part whose link has to fit its position: none at the beginning, one
everywhere else. The link is checked also where the part is a block without parts, which
is then left out. -/
def push (block : Block) (link : Option Combinator) (part : Part) : Except QueryError Block :=
  match block.isEmpty, link with
  | true, some combinator => .error (.leadingCombinator combinator)
  | false, none => .error .missingCombinator
  | _, _ => .ok (if vacuous part then block else block.append link part)

/-- The block of the given parts, pushed one after the other. -/
def ofParts (parts : List (Option Combinator × Part)) : Except QueryError Block :=
  parts.foldlM (fun block (link, part) => block.push link part) empty

/-- The link of the next part: none for the first one, else the requested combinator or
the default one. -/
def nextLink (block : Block) (requested : Option Combinator) : Option Combinator :=
  if block.isEmpty then none else some (requested.getD default)

/-- Appends a condition. A requested combinator is ignored for the first part. -/
def addCondition (block : Block) (requested : Option Combinator) (condition : Condition) :
    Block :=
  block.append (block.nextLink requested) (.condition condition)

/-- Nests a block, unless it has no parts. -/
def addGroup (block : Block) (requested : Option Combinator) (group : Block) : Block :=
  if group.isEmpty then block else block.append (block.nextLink requested) (.group group)

/-- Appends raw text with the default combinator. -/
def addText (block : Block) (text : String) : Block :=
  block.append (block.nextLink none) (.text text)

end Block

mutual

/-- Parts agree if they are of one kind and their conditions, blocks or texts agree. -/
def Part.agrees : Part → Part → Bool
  | .condition x, .condition y => x.agrees y
  | .group x, .group y => x.agrees y
  | .text x, .text y => x == y
  | _, _ => false

/-- Blocks agree if they have the same links and parts that agree, in the same order. -/
def Block.agrees : Block → Block → Bool
  | .empty, .empty => true
  | .entry link part rest, .entry link' part' rest' =>
    link == link' && part.agrees part' && rest.agrees rest'
  | _, _ => false

end

mutual

/-- The values a part binds, from left to right. -/
def Part.values : Part → List Value
  | .condition condition => condition.operand.values
  | .group block => block.values
  | .text _ => []

/-- The values a block binds, depth first and from left to right. -/
def Block.values : Block → List Value
  | .empty => []
  | .entry _ part rest => part.values ++ rest.values

end

end BoundSql
