import BoundSql.Proofs.NameRules

/-!
# What refusals of names report

A refused name is reported with the first rule that it breaks. Which one that is depends on what
counts as the length of a text (`ReportsRule`). The reports are right if it is the number of bytes,
by which names are limited. The sentence of the refusal speaks of characters: with their number for
the length, the reports are right exactly for the texts that take at most sixty-four bytes and for
those without characters beyond ASCII (`NameFault.report_iff`). Any other text is refused as too
long, of however few characters it is, and its bytes are reported as characters
(`NameFault.characters_miscounted`).
-/

namespace BoundSql

/-- An ASCII letter or the underscore. -/
def IsNameStart (c : Char) : Prop := 'A' ≤ c ∧ c ≤ 'Z' ∨ 'a' ≤ c ∧ c ≤ 'z' ∨ c = '_'

/-- The text has a first character, and a name may start with it. -/
def StartsAsName (text : String) : Prop := ∃ first ∈ text.toList.head?, IsNameStart first

/-- The outcome of reading a text as a name reports the first rule that is broken, where `size`
counts as the length of the text and `keyword` says whether it is reserved. -/
structure ReportsRule {α : Type} (size : Nat) (keyword : Prop) (text : String)
    (outcome : Except NameFault α) : Prop where
  /-- Nothing is written. -/
  empty : outcome = .error .empty ↔ text = ""
  /-- The text is longer than sixty-four; its length is reported. -/
  tooLong : ∀ name length, outcome = .error (.tooLong name length) ↔
    64 < size ∧ name = text ∧ length = size
  /-- Else the first character is neither a letter nor the underscore. -/
  startCharacter : ∀ name, outcome = .error (.startCharacter name) ↔
    size ≤ 64 ∧ name = text ∧ ∃ first ∈ text.toList.head?, ¬ IsNameStart first
  /-- Else some character is neither a letter, a digit nor the underscore. -/
  character : ∀ name, outcome = .error (.character name) ↔
    size ≤ 64 ∧ name = text ∧ StartsAsName text ∧ ∃ c ∈ text.toList, ¬ IsNameChar c
  /-- Else the text is reserved. -/
  reserved : ∀ name, outcome = .error (.reserved name) ↔
    size ≤ 64 ∧ name = text ∧ StartsAsName text ∧ (∀ c ∈ text.toList, IsNameChar c) ∧ keyword

/-- The characters that a name may start with are those of names but the digits. -/
theorem isNameStart_iff {c : Char} : IsNameStart c ↔ IsNameChar c ∧ ¬ ('0' ≤ c ∧ c ≤ '9') := by
  have underscore : c.toNat = 95 ↔ c = '_' := Char.toNat_inj (d := '_')
  rw [isNameChar_iff_toNat]
  simp only [IsNameStart, ← underscore, Char.le_def, UInt32.le_iff_toNat_le, Char.toNat_val]
  have digits : '0'.toNat = 48 ∧ '9'.toNat = 57 ∧ 'A'.toNat = 65 ∧ 'Z'.toNat = 90 ∧
    'a'.toNat = 97 ∧ 'z'.toNat = 122 := by decide
  omega

/-- A text begins with a character that starts a name exactly if this is its first one. -/
theorem startsAsName_iff {text : String} :
    StartsAsName text ↔ ∃ first rest, text.toList = first :: rest ∧ IsNameStart first := by
  simp only [StartsAsName, Option.mem_def, List.head?_eq_some_iff]
  exact ⟨fun ⟨first, ⟨rest, shape⟩, start⟩ => ⟨first, rest, shape, start⟩,
    fun ⟨first, rest, shape, start⟩ => ⟨first, ⟨rest, shape⟩, start⟩⟩

/-- A name fits, begins as a name does, and goes on so. -/
theorem isName_iff_starts {text : String} :
    IsName text ↔ text.utf8ByteSize ≤ 64 ∧ StartsAsName text ∧
      ∀ c ∈ text.toList, IsNameChar c := by
  rw [isName_iff, columnFault?_eq_none_iff, isWord_iff, startsAsName_iff, maximumNameBytes]
  constructor
  · rintro ⟨⟨first, rest, shape, start, clean⟩, fits⟩
    refine ⟨fits, ⟨first, rest, shape, isNameStart_iff.2 start⟩, ?_⟩
    rw [shape]
    exact List.forall_mem_cons.2 ⟨start.1, clean⟩
  · rintro ⟨fits, ⟨first, rest, shape, start⟩, clean⟩
    rw [shape] at clean
    exact ⟨⟨first, rest, shape, isNameStart_iff.1 start, (List.forall_mem_cons.1 clean).2⟩, fits⟩

namespace BreaksColumnRule

variable {text : String}

/-- Nothing is written exactly if the text is empty. -/
theorem empty_iff : BreaksColumnRule text .empty ↔ text = "" := by
  refine ⟨fun broken => ?_, .empty⟩
  cases broken with
  | empty vacant => exact vacant

/-- A text is too long exactly if it takes more than sixty-four bytes. -/
theorem tooLong_iff {name : String} {length : Nat} :
    BreaksColumnRule text (.tooLong name length) ↔
      64 < text.utf8ByteSize ∧ name = text ∧ length = text.utf8ByteSize := by
  constructor
  · intro broken
    cases broken with
    | tooLong long => exact ⟨long, rfl, rfl⟩
  · rintro ⟨long, rfl, rfl⟩
    exact .tooLong long

/-- A text that fits is refused for its first character exactly if no name starts with it. -/
theorem startCharacter_iff {name : String} :
    BreaksColumnRule text (.startCharacter name) ↔
      text.utf8ByteSize ≤ 64 ∧ name = text ∧
        ∃ first ∈ text.toList.head?, ¬ IsNameStart first := by
  have refused {c : Char} : ¬ IsNameStart c ↔ ¬ IsNameChar c ∨ '0' ≤ c ∧ c ≤ '9' := by
    rw [isNameStart_iff, not_and_or, not_not]
  constructor
  · intro broken
    cases broken with
    | @startCharacter first _ fits shape start =>
      exact ⟨fits, rfl, first, by simp [shape], refused.2 start⟩
  · rintro ⟨fits, rfl, first, lead, strange⟩
    obtain ⟨rest, shape⟩ := List.head?_eq_some_iff.1 lead
    exact .startCharacter fits shape (refused.1 strange)

/-- A text that fits and begins as a name does is refused for a character exactly if one stands in
no name. -/
theorem character_iff {name : String} :
    BreaksColumnRule text (.character name) ↔
      text.utf8ByteSize ≤ 64 ∧ name = text ∧ StartsAsName text ∧
        ∃ c ∈ text.toList, ¬ IsNameChar c := by
  rw [startsAsName_iff]
  constructor
  · intro broken
    cases broken with
    | @character first rest c fits shape letter nondigit inside strange =>
      refine ⟨fits, rfl, ⟨first, rest, shape, isNameStart_iff.2 ⟨letter, nondigit⟩⟩, c, ?_, strange⟩
      rw [shape]
      exact List.mem_cons_of_mem _ inside
  · rintro ⟨fits, rfl, ⟨first, rest, shape, start⟩, c, inside, strange⟩
    obtain ⟨letter, nondigit⟩ := isNameStart_iff.1 start
    rw [shape] at inside
    -- the first character is one of names, so that the strange one stands behind it
    rcases List.mem_cons.1 inside with rfl | behind
    · exact absurd letter strange
    · exact .character fits shape letter nondigit behind strange

/-- No rule for columns speaks of reserved words. -/
theorem ne_reserved {name : String} : ¬ BreaksColumnRule text (.reserved name) := by
  rintro ⟨⟩

end BreaksColumnRule

namespace ReportsRule

variable {α : Type} {size other : Nat} {keyword : Prop} {text : String}
  {outcome : Except NameFault α}

/-- What reports the rules for columns, and a reserved text if none of them is broken, reports the
first rule that is broken, the length being that in bytes. -/
theorem of_breaks (reported : ∀ fault, outcome = .error fault ↔
      BreaksColumnRule text fault ∨ fault = .reserved text ∧ IsName text ∧ keyword) :
    ReportsRule text.utf8ByteSize keyword text outcome where
  empty := by simp [reported, BreaksColumnRule.empty_iff]
  tooLong name length := by simp [reported, BreaksColumnRule.tooLong_iff]
  startCharacter name := by simp [reported, BreaksColumnRule.startCharacter_iff]
  character name := by simp [reported, BreaksColumnRule.character_iff]
  reserved name := by
    rw [reported, isName_iff_starts, or_iff_right BreaksColumnRule.ne_reserved,
      NameFault.reserved.injEq]
    exact ⟨fun ⟨same, ⟨fits, start, clean⟩, word⟩ => ⟨fits, same, start, clean, word⟩,
      fun ⟨fits, same, start, clean, word⟩ => ⟨same, ⟨fits, start, clean⟩, word⟩⟩

/-- Reports that are right about one length are right about another exactly if both fit. -/
theorem size_iff (right : ReportsRule size keyword text outcome) :
    ReportsRule other keyword text outcome ↔ other = size ∨ other ≤ 64 ∧ size ≤ 64 := by
  constructor
  · intro right'
    by_cases long : 64 < size
    · have refused := (right.tooLong text size).2 ⟨long, rfl, rfl⟩
      exact .inl ((right'.tooLong text size).1 refused).2.2.symm
    by_cases long' : 64 < other
    · have refused := (right'.tooLong text other).2 ⟨long', rfl, rfl⟩
      exact absurd ((right.tooLong text other).1 refused).1 long
    exact .inr ⟨Nat.not_lt.1 long', Nat.not_lt.1 long⟩
  · rintro (rfl | ⟨fits', fits⟩)
    · exact right
    · have long : ¬ 64 < size := Nat.not_lt.2 fits
      have long' : ¬ 64 < other := Nat.not_lt.2 fits'
      exact
        { empty := right.empty
          tooLong := fun name length => by rw [right.tooLong]; simp only [long, long', false_and]
          startCharacter := by simpa only [fits, fits'] using right.startCharacter
          character := by simpa only [fits, fits'] using right.character
          reserved := by simpa only [fits, fits'] using right.reserved }

/-- Reports that are right about the bytes of a text are right about its characters exactly if the
bytes fit or the text is an ASCII one. -/
theorem length_iff (right : ReportsRule text.utf8ByteSize keyword text outcome) :
    ReportsRule text.length keyword text outcome ↔
      text.utf8ByteSize ≤ 64 ∨ ∀ c ∈ text.toList, c.toNat < 128 := by
  have fewer := length_le_utf8ByteSize text
  rw [right.size_iff, ← utf8ByteSize_eq_length_iff]
  omega

end ReportsRule

/-- Refused column names report the first rule they break, by their bytes. -/
theorem ColumnName.reportsRule (text : String) :
    ReportsRule text.utf8ByteSize False text (parse text) :=
  .of_breaks fun fault => by
    rw [parse_eq_error_iff, columnFault?_eq_some_iff]
    simp

/-- Refused table names report the first rule they break, by their bytes. -/
theorem TableName.reportsRule (text : String) :
    ReportsRule text.utf8ByteSize (IsKeyword text) text (parse text) :=
  .of_breaks fun fault => by
    rw [parse_eq_error_iff, tableFault?_eq_some_iff]
    constructor
    · intro broken
      cases broken with
      | column broken => exact .inl broken
      | reserved name keyword => exact .inr ⟨rfl, name, keyword⟩
    · rintro (broken | ⟨rfl, name, keyword⟩)
      · exact .column broken
      · exact .reserved name keyword

/-- A refused name reports the first rule that it breaks, its length being that in bytes. Counted in
characters, as the sentence of the refusal has it, the length is the right one for the texts of at
most sixty-four bytes and for the ASCII texts, and for no others. -/
theorem NameFault.report_iff (text : String) :
    ReportsRule text.utf8ByteSize False text (ColumnName.parse text) ∧
    ReportsRule text.utf8ByteSize (IsKeyword text) text (TableName.parse text) ∧
    (ReportsRule text.length False text (ColumnName.parse text) ↔
      text.utf8ByteSize ≤ 64 ∨ ∀ c ∈ text.toList, c.toNat < 128) ∧
    (ReportsRule text.length (IsKeyword text) text (TableName.parse text) ↔
      text.utf8ByteSize ≤ 64 ∨ ∀ c ∈ text.toList, c.toNat < 128) :=
  ⟨ColumnName.reportsRule text, TableName.reportsRule text,
    (ColumnName.reportsRule text).length_iff, (TableName.reportsRule text).length_iff⟩

namespace Sample

/-- Thirty-three characters of two bytes each. -/
def accented : String := String.ofList (List.replicate 33 'é')

end Sample

/-- A text of thirty-three characters that starts as no name does is refused for its length, and
this is said to be sixty-six characters. -/
theorem NameFault.characters_miscounted :
    Sample.accented.length = 33 ∧
    ColumnName.parse Sample.accented = .error (.tooLong Sample.accented 66) ∧
    TableName.parse Sample.accented = .error (.tooLong Sample.accented 66) ∧
    (NameFault.tooLong Sample.accented 66).message =
      "Name '" ++ Sample.accented ++ "' is too long: 66 characters (max 64)" ∧
    ¬ ReportsRule Sample.accented.length False Sample.accented
      (ColumnName.parse Sample.accented) ∧
    ¬ ReportsRule Sample.accented.length (IsKeyword Sample.accented) Sample.accented
      (TableName.parse Sample.accented) := by
  have size : Sample.accented.length = 33 := by decide +kernel
  have column : ColumnName.parse Sample.accented = .error (.tooLong Sample.accented 66) :=
    ColumnName.parse_eq_error_iff.2 (by decide +kernel)
  have table : TableName.parse Sample.accented = .error (.tooLong Sample.accented 66) :=
    TableName.parse_eq_error_iff.2 (by decide +kernel)
  refine ⟨size, column, table, by decide +kernel, fun right => ?_, fun right => ?_⟩
  · have short := ((right.tooLong _ _).1 column).1
    omega
  · have short := ((right.tooLong _ _).1 table).1
    omega

end BoundSql
