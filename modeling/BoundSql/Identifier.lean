/-!
# Identifiers

Names that stand bare in a statement: column names, and the names and aliases of
tables. A name is an ASCII word of at most 64 bytes; a table name may in addition
not be a reserved word. `columnFault?` and `tableFault?` report the first rule a
text breaks, and the two name types carry the proof that there is none.
-/

namespace BoundSql

/-- The rule a refused name breaks, with the name as it was given. -/
inductive NameFault where
  /-- Nothing is written. -/
  | empty
  /-- The name takes more bytes than a name may. -/
  | tooLong (name : String) (bytes : Nat)
  /-- The first character is neither a letter nor an underscore. -/
  | startCharacter (name : String)
  /-- Some character is neither a letter, a digit nor an underscore. -/
  | character (name : String)
  /-- The name is a reserved word, in any letter case. -/
  | reserved (name : String)
deriving DecidableEq, Repr

/-- The most bytes a name may take in UTF-8. -/
def maximumNameBytes : Nat := 64

/-- The characters a name may start with: ASCII letters and the underscore. -/
def startsName (c : Char) : Bool := c.isAlpha || c == '_'

/-- The characters a name consists of: ASCII letters, digits and the underscore. -/
def continuesName (c : Char) : Bool := c.isAlphanum || c == '_'

/-- Whatever starts a name may also continue it. -/
theorem continuesName_of_startsName {c : Char} (starts : startsName c = true) :
    continuesName c = true := by
  simp only [startsName, continuesName, Char.isAlphanum, Bool.or_eq_true] at starts ⊢
  rcases starts with letter | underscore
  · exact Or.inl (Or.inl letter)
  · exact Or.inr underscore

/-- The words a table may not be called, in upper case. -/
def reservedWords : List String :=
  ["SELECT", "INSERT", "UPDATE", "DELETE", "FROM", "WHERE", "JOIN", "INNER", "LEFT", "RIGHT",
   "FULL", "OUTER", "CROSS", "ON", "USING", "AS", "AND", "OR", "NOT", "NULL", "TRUE", "FALSE",
   "IS", "IN", "LIKE", "BETWEEN", "EXISTS", "CASE", "WHEN", "THEN", "ELSE", "END", "ORDER",
   "BY", "GROUP", "HAVING", "LIMIT", "OFFSET", "UNION", "ALL", "DISTINCT", "INTO", "VALUES",
   "SET", "CREATE", "DROP", "ALTER", "TABLE", "INDEX", "VIEW", "DATABASE", "SCHEMA", "PRIMARY",
   "KEY", "FOREIGN", "REFERENCES", "UNIQUE", "CHECK", "DEFAULT", "CONSTRAINT", "ASC", "DESC"]

/-- Whether a name is a reserved word once its ASCII letters are in upper case. -/
def isReserved (name : String) : Bool :=
  reservedWords.contains (name.map Char.toUpper)

/-- The first rule a column name breaks. -/
def columnFault? (name : String) : Option NameFault :=
  match name.toList with
  | [] => some .empty
  | first :: rest =>
    if maximumNameBytes < name.utf8ByteSize then some (.tooLong name name.utf8ByteSize)
    else if !startsName first then some (.startCharacter name)
    else if !rest.all continuesName then some (.character name)
    else none

/-- The first rule a table name or alias breaks. -/
def tableFault? (name : String) : Option NameFault :=
  match columnFault? name with
  | some fault => some fault
  | none => if isReserved name then some (.reserved name) else none

/-- An ASCII word: a starting character followed by continuing ones. -/
def IsWord (name : String) : Prop :=
  ∃ first rest, name.toList = first :: rest ∧ startsName first = true ∧
    ∀ c ∈ rest, continuesName c = true

/-- Exactly the words of at most 64 bytes may name a column. -/
theorem columnFault?_eq_none_iff {name : String} :
    columnFault? name = none ↔ IsWord name ∧ name.utf8ByteSize ≤ maximumNameBytes := by
  unfold columnFault? IsWord
  cases shape : name.toList with
  | nil => simp
  | cons first rest =>
    by_cases long : maximumNameBytes < name.utf8ByteSize
    · simp [long, Nat.not_le.2 long]
    · have fits : name.utf8ByteSize ≤ maximumNameBytes := Nat.not_lt.1 long
      cases starts : startsName first with
      | false => simp [long, starts]
      | true =>
        simp only [long, fits, starts, if_false, Bool.not_true, Bool.false_eq_true, and_true]
        constructor
        · intro clean
          exact ⟨first, rest, rfl, starts, by simpa using clean⟩
        · rintro ⟨_, _, same, _, clean⟩
          cases same
          simpa using clean

/-- Exactly the column names that are not reserved may name a table. -/
theorem tableFault?_eq_none_iff {name : String} :
    tableFault? name = none ↔ columnFault? name = none ∧ isReserved name = false := by
  unfold tableFault?
  cases columnFault? name with
  | some fault => simp
  | none => cases isReserved name <;> simp

/-- A name a column may have. -/
structure ColumnName where
  /-- The name as it is written. -/
  text : String
  /-- The name breaks no rule for columns. -/
  legal : columnFault? text = none
deriving DecidableEq, Repr

/-- A name a table or an alias may have. -/
structure TableName where
  /-- The name as it is written. -/
  text : String
  /-- The name breaks no rule for tables. -/
  legal : tableFault? text = none
deriving DecidableEq, Repr

namespace ColumnName

/-- Reads a column name, or names the first rule it breaks. -/
def parse (name : String) : Except NameFault ColumnName :=
  match legal : columnFault? name with
  | none => .ok ⟨name, legal⟩
  | some fault => .error fault

/-- A legal text is read as itself. -/
theorem parse_text (name : ColumnName) : parse name.text = .ok name := by
  unfold parse
  split
  · rfl
  · next fault found => rw [name.legal] at found; cases found

/-- A refusal reports the first rule the text breaks. -/
theorem parse_eq_error_iff {name : String} {fault : NameFault} :
    parse name = .error fault ↔ columnFault? name = some fault := by
  unfold parse
  split <;> simp_all

end ColumnName

namespace TableName

/-- Reads a table name, or names the first rule it breaks. -/
def parse (name : String) : Except NameFault TableName :=
  match legal : tableFault? name with
  | none => .ok ⟨name, legal⟩
  | some fault => .error fault

/-- A legal text is read as itself. -/
theorem parse_text (name : TableName) : parse name.text = .ok name := by
  unfold parse
  split
  · rfl
  · next fault found => rw [name.legal] at found; cases found

/-- A refusal reports the first rule the text breaks. -/
theorem parse_eq_error_iff {name : String} {fault : NameFault} :
    parse name = .error fault ↔ tableFault? name = some fault := by
  unfold parse
  split <;> simp_all

end TableName

/-- The sentence that explains a refused name. -/
def NameFault.message : NameFault → String
  | .empty => "Name cannot be empty"
  | .tooLong name bytes =>
    s!"Name '{name}' is too long: {bytes} characters (max {maximumNameBytes})"
  | .startCharacter name => s!"Name '{name}' must start with a letter or underscore"
  | .character name =>
    s!"Invalid characters in name '{name}': only alphanumeric characters and underscores are allowed"
  | .reserved name => s!"Name '{name}' is a reserved SQL keyword"

end BoundSql
