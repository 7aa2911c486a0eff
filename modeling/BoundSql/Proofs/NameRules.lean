import BoundSql.Proofs.Words
import Mathlib.Data.List.Forall2

/-!
# The rules for names

What a text has to look like to name a column or a table (`IsName`, `IsKeyword`), said of its
characters, and which rule a refused text breaks first (`BreaksColumnRule`, `BreaksTableRule`). The
length of a name is limited in bytes; a text without a character beyond ASCII has as many bytes as
characters, so that the limit is one of characters for all that can be a name
(`isName_iff`). A keyword is refused in any letter case; only the ASCII letters have two
(`isReserved_iff`).
-/

namespace BoundSql

/-- An ASCII letter, an ASCII digit or the underscore. -/
def IsNameChar (c : Char) : Prop :=
  'A' ≤ c ∧ c ≤ 'Z' ∨ 'a' ≤ c ∧ c ≤ 'z' ∨ '0' ≤ c ∧ c ≤ '9' ∨ c = '_'

/-- A text of one to sixty-four letters, digits and underscores that does not begin with a
digit. -/
structure IsName (text : String) : Prop where
  /-- There is a character. -/
  present : 1 ≤ text.length
  /-- There are not too many. -/
  short : text.length ≤ 64
  /-- All are letters, digits or underscores. -/
  clean : ∀ c ∈ text.toList, IsNameChar c
  /-- The first is no digit. -/
  start : ∀ c, text.toList.head? = some c → ¬ ('0' ≤ c ∧ c ≤ '9')

/-- A text is a word in upper case once the case of its letters is ignored: each character is that
of the word, or the small letter of it. -/
def InAnyCase (word text : String) : Prop :=
  List.Forall₂ (fun w c => c = w ∨ c = w.toLower) word.toList text.toList

instance (word text : String) : Decidable (InAnyCase word text) :=
  inferInstanceAs (Decidable (List.Forall₂ _ _ _))

/-- A text is a reserved word in any letter case. -/
def IsKeyword (text : String) : Prop := ∃ word ∈ reservedWords, InAnyCase word text

/-- The first rule for columns that a text breaks. -/
inductive BreaksColumnRule (text : String) : NameFault → Prop where
  /-- Nothing is written. -/
  | empty (vacant : text = "") : BreaksColumnRule text .empty
  /-- The text takes more than sixty-four bytes. -/
  | tooLong (long : 64 < text.utf8ByteSize) :
    BreaksColumnRule text (.tooLong text text.utf8ByteSize)
  /-- It fits, and begins with a digit or with what stands in no name. -/
  | startCharacter {first : Char} {rest : List Char} (fits : text.utf8ByteSize ≤ 64)
      (shape : text.toList = first :: rest)
      (start : ¬ IsNameChar first ∨ '0' ≤ first ∧ first ≤ '9') :
    BreaksColumnRule text (.startCharacter text)
  /-- It fits and begins as a name does, and goes on with a character that stands in none. -/
  | character {first : Char} {rest : List Char} {c : Char} (fits : text.utf8ByteSize ≤ 64)
      (shape : text.toList = first :: rest) (letter : IsNameChar first)
      (nondigit : ¬ ('0' ≤ first ∧ first ≤ '9')) (inside : c ∈ rest) (strange : ¬ IsNameChar c) :
    BreaksColumnRule text (.character text)

/-- The first rule for tables and aliases that a text breaks. -/
inductive BreaksTableRule (text : String) : NameFault → Prop where
  /-- It is a rule for columns. -/
  | column {fault : NameFault} (broken : BreaksColumnRule text fault) : BreaksTableRule text fault
  /-- The text is a name, and a keyword. -/
  | reserved (name : IsName text) (keyword : IsKeyword text) :
    BreaksTableRule text (.reserved text)

/-- The code point of a character in upper case. -/
theorem toNat_toUpper (c : Char) :
    c.toUpper.toNat = if 97 ≤ c.toNat ∧ c.toNat ≤ 122 then c.toNat - 32 else c.toNat := by
  have bounds : ('a'.val ≤ c.val ∧ c.val ≤ 'z'.val) ↔ 97 ≤ c.toNat ∧ c.toNat ≤ 122 := by
    simp [UInt32.le_iff_toNat_le, Char.toNat_val]
  unfold Char.toUpper
  by_cases small : 97 ≤ c.toNat ∧ c.toNat ≤ 122
  · rw [if_pos small, dif_pos (bounds.2 small)]
    change (c.val + ('A'.val - 'a'.val)).toNat = c.toNat - 32
    rw [UInt32.toNat_add, Char.toNat_val]
    have shift : ('A'.val - 'a'.val).toNat = 2 ^ 32 - 32 := by decide
    omega
  · rw [if_neg small, dif_neg (mt bounds.1 small)]

/-- The code point of a character in lower case. -/
theorem toNat_toLower (c : Char) :
    c.toLower.toNat = if 65 ≤ c.toNat ∧ c.toNat ≤ 90 then c.toNat + 32 else c.toNat := by
  have bounds : (c.val ≥ 'A'.val ∧ c.val ≤ 'Z'.val) ↔ 65 ≤ c.toNat ∧ c.toNat ≤ 90 := by
    simp [UInt32.le_iff_toNat_le, Char.toNat_val]
  unfold Char.toLower
  by_cases capital : 65 ≤ c.toNat ∧ c.toNat ≤ 90
  · rw [if_pos capital, dif_pos (bounds.2 capital)]
    change (c.val + ('a'.val - 'A'.val)).toNat = c.toNat + 32
    rw [UInt32.toNat_add, Char.toNat_val]
    have shift : ('a'.val - 'A'.val).toNat = 32 := by decide
    omega
  · rw [if_neg capital, dif_neg (mt bounds.1 capital)]

/-- A character in upper case is a given capital letter exactly if it is this letter or the small
one. -/
theorem toUpper_eq_iff {w c : Char} (capital : 65 ≤ w.toNat ∧ w.toNat ≤ 90) :
    c.toUpper = w ↔ c = w ∨ c = w.toLower := by
  rw [← Char.toNat_inj, ← Char.toNat_inj, ← Char.toNat_inj, toNat_toUpper, toNat_toLower,
    if_pos capital]
  split <;> omega

/-- A text is a word of capital letters in any case exactly if it is the word in upper case. -/
theorem inAnyCase_iff {word text : String}
    (capitals : ∀ w ∈ word.toList, 65 ≤ w.toNat ∧ w.toNat ≤ 90) :
    InAnyCase word text ↔ text.map Char.toUpper = word := by
  rw [InAnyCase, ← String.toList_inj, String.toList_map]
  generalize word.toList = ws at capitals
  generalize text.toList = cs
  induction ws generalizing cs with
  | nil => cases cs <;> simp
  | cons w more ih =>
    obtain ⟨capital, others⟩ := List.forall_mem_cons.1 capitals
    cases cs with
    | nil => simp
    | cons c rest =>
      rw [List.forall₂_cons, List.map_cons, List.cons.injEq, toUpper_eq_iff capital, ih others]

/-- Exactly the reserved words are refused, in any letter case. -/
theorem isReserved_iff {text : String} : isReserved text = true ↔ IsKeyword text := by
  have capitals : ∀ word ∈ reservedWords, ∀ w ∈ word.toList, 65 ≤ w.toNat ∧ w.toNat ≤ 90 := by
    have all : reservedWords.all (fun word =>
        word.toList.all fun w => 65 ≤ w.toNat ∧ w.toNat ≤ 90) = true := by decide +kernel
    simpa only [List.all_eq_true, decide_eq_true_eq] using all
  rw [isReserved, List.contains_iff_mem]
  constructor
  · intro known
    exact ⟨_, known, (inAnyCase_iff (capitals _ known)).2 rfl⟩
  · rintro ⟨word, known, cases⟩
    rwa [(inAnyCase_iff (capitals word known)).1 cases]

/-- The characters of names by their code points. -/
theorem isNameChar_iff_toNat {c : Char} :
    IsNameChar c ↔ 65 ≤ c.toNat ∧ c.toNat ≤ 90 ∨ 97 ≤ c.toNat ∧ c.toNat ≤ 122 ∨
      48 ≤ c.toNat ∧ c.toNat ≤ 57 ∨ c.toNat = 95 := by
  have underscore : c.toNat = 95 ↔ c = '_' := Char.toNat_inj (d := '_')
  simp [IsNameChar, underscore, Char.le_def, UInt32.le_iff_toNat_le, Char.toNat_val]

/-- Names are continued by letters, digits and underscores. -/
theorem continuesName_iff {c : Char} : continuesName c = true ↔ IsNameChar c := by
  have underscore : c.toNat = 95 ↔ c = '_' := Char.toNat_inj (d := '_')
  rw [isNameChar_iff_toNat, underscore]
  simp only [continuesName, Char.isAlphanum, Bool.or_eq_true, beq_iff_eq, isAlpha_iff_toNat,
    Char.isDigit_iff_toNat, or_assoc]
  rfl

/-- Names begin with what continues them, but with no digit. -/
theorem startsName_iff {c : Char} :
    startsName c = true ↔ IsNameChar c ∧ ¬ ('0' ≤ c ∧ c ≤ '9') := by
  have digit : ('0' ≤ c ∧ c ≤ '9') ↔ 48 ≤ c.toNat ∧ c.toNat ≤ 57 := by
    simp [Char.le_def, UInt32.le_iff_toNat_le, Char.toNat_val]
  have letter : startsName c = true ↔
      65 ≤ c.toNat ∧ c.toNat ≤ 90 ∨ 97 ≤ c.toNat ∧ c.toNat ≤ 122 ∨ c.toNat = 95 := by
    have underscore : c.toNat = 95 ↔ c = '_' := Char.toNat_inj (d := '_')
    rw [startsName, Bool.or_eq_true, beq_iff_eq, isAlpha_iff_toNat, underscore, or_assoc]
  rw [letter, isNameChar_iff_toNat, digit]
  omega

/-- The bytes of a text are counted character by character. -/
theorem utf8ByteSize_cons (c : Char) (rest : List Char) :
    (String.ofList (c :: rest)).utf8ByteSize = c.utf8Size + (String.ofList rest).utf8ByteSize := by
  have split : String.ofList (c :: rest) = String.singleton c ++ String.ofList rest :=
    String.toList_injective (by simp)
  rw [split, String.utf8ByteSize_append, String.utf8ByteSize_singleton]

/-- A text has at least as many bytes as characters. -/
theorem length_le_utf8ByteSize (text : String) : text.length ≤ text.utf8ByteSize := by
  obtain ⟨cs, rfl⟩ : ∃ cs, text = String.ofList cs := ⟨text.toList, String.ofList_toList.symm⟩
  rw [String.length_ofList]
  induction cs with
  | nil => exact Nat.zero_le _
  | cons c rest ih =>
    have wide : 0 < c.utf8Size := c.utf8Size_pos
    rw [utf8ByteSize_cons, List.length_cons]
    omega

/-- Exactly the ASCII texts have as many bytes as characters. -/
theorem utf8ByteSize_eq_length_iff {text : String} :
    text.utf8ByteSize = text.length ↔ ∀ c ∈ text.toList, c.toNat < 128 := by
  obtain ⟨cs, rfl⟩ : ∃ cs, text = String.ofList cs := ⟨text.toList, String.ofList_toList.symm⟩
  rw [String.toList_ofList, String.length_ofList]
  induction cs with
  | nil => simp
  | cons c rest ih =>
    have narrow : c.utf8Size = 1 ↔ c.toNat < 128 := by
      rw [Char.utf8Size_eq_one_iff, UInt32.le_iff_toNat_le]
      exact Nat.lt_succ_iff.symm
    have wide : 0 < c.utf8Size := c.utf8Size_pos
    have others := length_le_utf8ByteSize (String.ofList rest)
    rw [String.length_ofList] at others
    rw [utf8ByteSize_cons, List.length_cons, List.forall_mem_cons, ← narrow, ← ih]
    omega

/-- A word is a text of letters, digits and underscores that does not begin with a digit. -/
theorem isWord_iff {text : String} :
    IsWord text ↔ ∃ first rest, text.toList = first :: rest ∧
      (IsNameChar first ∧ ¬ ('0' ≤ first ∧ first ≤ '9')) ∧ ∀ c ∈ rest, IsNameChar c := by
  simp only [IsWord, startsName_iff, continuesName_iff]

/-- Exactly the names may name a column. -/
theorem isName_iff {text : String} : IsName text ↔ columnFault? text = none := by
  -- Bytes and characters of a text can only be exchanged once its characters are known.
  have bytes : (∀ c ∈ text.toList, IsNameChar c) → text.utf8ByteSize = text.length := by
    intro clean
    refine utf8ByteSize_eq_length_iff.2 fun c inside => ?_
    have ranges := isNameChar_iff_toNat.1 (clean c inside)
    omega
  rw [columnFault?_eq_none_iff, isWord_iff, maximumNameBytes]
  constructor
  · intro name
    have short : text.utf8ByteSize ≤ 64 := by
      rw [bytes name.clean]
      exact name.short
    refine ⟨?_, short⟩
    cases shape : text.toList with
    | nil =>
      have present := name.present
      rw [← String.length_toList, shape] at present
      cases present
    | cons first rest =>
      have clean := name.clean
      rw [shape, List.forall_mem_cons] at clean
      exact ⟨first, rest, rfl, ⟨clean.1, name.start first (by simp [shape])⟩, clean.2⟩
  · rintro ⟨⟨first, rest, shape, ⟨letter, nondigit⟩, clean⟩, short⟩
    have all : ∀ c ∈ text.toList, IsNameChar c := by
      rw [shape]
      exact List.forall_mem_cons.2 ⟨letter, clean⟩
    rw [bytes all] at short
    refine { present := ?_, short, clean := all, start := ?_ }
    · rw [← String.length_toList, shape]
      simp
    · intro c lead
      rw [shape, List.head?_cons] at lead
      cases lead
      exact nondigit

/-- The checks of a column name that has a first character. -/
theorem columnFault?_of_shape {text : String} {first : Char} {rest : List Char}
    (shape : text.toList = first :: rest) :
    columnFault? text =
      if 64 < text.utf8ByteSize then some (.tooLong text text.utf8ByteSize)
      else if ¬ startsName first = true then some (.startCharacter text)
      else if ¬ rest.all continuesName = true then some (.character text)
      else none := by
  rw [columnFault?, shape]
  simp only [Bool.not_eq_true, Bool.not_eq_true', maximumNameBytes]

/-- A refused column name is reported with the first rule it breaks. -/
theorem columnFault?_eq_some_iff {text : String} {fault : NameFault} :
    columnFault? text = some fault ↔ BreaksColumnRule text fault := by
  constructor
  · intro found
    cases shape : text.toList with
    | nil =>
      rw [columnFault?, shape] at found
      cases found
      exact .empty (String.toList_injective shape)
    | cons first rest =>
      rw [columnFault?_of_shape shape] at found
      by_cases long : 64 < text.utf8ByteSize
      · rw [if_pos long] at found
        cases found
        exact .tooLong long
      have fits : text.utf8ByteSize ≤ 64 := Nat.not_lt.1 long
      rw [if_neg long] at found
      by_cases start : startsName first = true
      · obtain ⟨letter, nondigit⟩ := startsName_iff.1 start
        rw [if_neg (not_not_intro start)] at found
        by_cases clean : rest.all continuesName = true
        · rw [if_neg (not_not_intro clean)] at found
          cases found
        · rw [if_pos clean] at found
          cases found
          obtain ⟨c, inside, strange⟩ : ∃ c ∈ rest, ¬ continuesName c = true := by
            simpa using clean
          exact .character fits shape letter nondigit inside (mt continuesName_iff.2 strange)
      · rw [if_pos start] at found
        cases found
        refine .startCharacter fits shape ?_
        by_cases letter : IsNameChar first
        · exact .inr (not_not.1 fun nondigit => start (startsName_iff.2 ⟨letter, nondigit⟩))
        · exact .inl letter
  · intro broken
    cases broken with
    | empty vacant =>
      rw [columnFault?, vacant]
      rfl
    | tooLong long =>
      cases shape : text.toList with
      | nil =>
        have vacant : text = "" := String.toList_injective shape
        rw [vacant] at long
        cases long
      | cons first rest => rw [columnFault?_of_shape shape, if_pos long]
    | startCharacter fits shape start =>
      have refused : ¬ startsName _ = true := fun starts =>
        start.elim (absurd (startsName_iff.1 starts).1) (startsName_iff.1 starts).2
      rw [columnFault?_of_shape shape, if_neg (Nat.not_lt.2 fits), if_pos refused]
    | character fits shape letter nondigit inside strange =>
      have starts : startsName _ = true := startsName_iff.2 ⟨letter, nondigit⟩
      have unclean : ¬ List.all _ continuesName = true := fun clean =>
        strange (continuesName_iff.1 (List.all_eq_true.1 clean _ inside))
      rw [columnFault?_of_shape shape, if_neg (Nat.not_lt.2 fits), if_neg (not_not_intro starts),
        if_pos unclean]

/-- Exactly the names that are no keywords may name a table. -/
theorem tableFault?_eq_none_iff_isName {text : String} :
    tableFault? text = none ↔ IsName text ∧ ¬ IsKeyword text := by
  rw [tableFault?_eq_none_iff, isName_iff, ← isReserved_iff, Bool.not_eq_true]

/-- A refused table name is reported with the first rule it breaks. -/
theorem tableFault?_eq_some_iff {text : String} {fault : NameFault} :
    tableFault? text = some fault ↔ BreaksTableRule text fault := by
  constructor
  · intro found
    unfold tableFault? at found
    cases column : columnFault? text with
    | some broken =>
      rw [column] at found
      cases found
      exact .column (columnFault?_eq_some_iff.1 column)
    | none =>
      rw [column] at found
      by_cases reserved : isReserved text = true
      · simp only [reserved, if_true, Option.some.injEq] at found
        subst found
        exact .reserved (isName_iff.2 column) (isReserved_iff.1 reserved)
      · simp [reserved] at found
  · intro broken
    cases broken with
    | column broken => rw [tableFault?, columnFault?_eq_some_iff.2 broken]
    | reserved name keyword =>
      simp [tableFault?, isName_iff.1 name, isReserved_iff.2 keyword]

/-- A name is refused as a column for the rule it breaks. -/
theorem ColumnName.read_eq_error_iff {name : String} {cause : QueryError} :
    read name = .error cause ↔ (columnFault? name).map .identifier = some cause := by
  cases parsed : parse name with
  | error fault =>
    rw [read, parsed, parse_eq_error_iff.1 parsed]
    simp [Except.mapError]
  | ok column =>
    have legal : columnFault? name = none := by
      unfold parse at parsed
      split at parsed
      · assumption
      · cases parsed
    rw [read, parsed, legal]
    simp [Except.mapError]

/-- A name is refused as that of a table for the rule it breaks. -/
theorem TableName.read_eq_error_iff {name : String} {cause : QueryError} :
    read name = .error cause ↔ (tableFault? name).map .identifier = some cause := by
  cases parsed : parse name with
  | error fault =>
    rw [read, parsed, parse_eq_error_iff.1 parsed]
    simp [Except.mapError]
  | ok table =>
    have kept : read name = .ok table := by
      rw [read, parsed]
      rfl
    have legal : tableFault? name = none := by
      rw [← table.legal, text_of_read kept]
    rw [read, parsed, legal]
    simp [Except.mapError]

end BoundSql
