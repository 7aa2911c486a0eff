import BoundSql.Proofs.Numerals
import BoundSql.Toml.Document
import Mathlib.Data.List.Basic

/-!
# Documents of sections

A document whose lines are headers with bare names and assignments of words to bare keys is read as
the tree of these sections, whatever blank lines stand between its lines and however these are
indented (`Toml.document?_of_sections`). The reading goes line by line: one lemma says what a header
does to the tree, one what an assignment does (`ReadsAs.header`, `ReadsAs.assignment`), and the
sections are an induction over both.
-/

namespace BoundSql.Toml

/-! ## Lines -/

/-- The lines of a text that are not blank, without their indentation. -/
def writtenLines (text : List Char) : List (List Char) :=
  ((text.splitOn '\n').map skipBlanks).filter (· ≠ [])

/-- A text that is empty, or begins with the end of a line. -/
def AtLineEnd (rest : List Char) : Prop := ∀ c ∈ rest.head?, c = '\n'

theorem atLineEnd_nil : AtLineEnd [] := nofun

theorem atLineEnd_newline (behind : List Char) : AtLineEnd ('\n' :: behind) :=
  fun _ same => (Option.some.inj same).symm

/-- An empty text has no lines. -/
@[simp] theorem writtenLines_nil : writtenLines [] = [] := rfl

/-- The end of a line does not count. -/
@[simp] theorem writtenLines_newline (text : List Char) :
    writtenLines ('\n' :: text) = writtenLines text := by
  have lines : ('\n' :: text).splitOn '\n' = [] :: text.splitOn '\n' :=
    List.splitOn_append_cons_self_of_not_mem List.not_mem_nil text
  rw [writtenLines, lines]
  rfl

/-- Neither does a blank before a line. -/
theorem writtenLines_blank {c : Char} (blank : isBlank c = true) (text : List Char) :
    writtenLines (c :: text) = writtenLines text := by
  have inLine : (c == '\n') = false := by
    rw [beq_eq_false_iff_ne]
    rintro rfl
    cases blank
  rw [writtenLines, List.splitOn_cons_eq_if_modifyHead, inLine, if_neg Bool.false_ne_true]
  obtain ⟨line, lines, shape⟩ := List.exists_cons_of_ne_nil (List.splitOn_ne_nil '\n' text)
  rw [writtenLines, shape, List.modifyHead_cons, List.map_cons, List.map_cons, skipBlanks,
    List.dropWhile_cons_of_pos blank]
  rfl

/-- What begins with another character is not indented. -/
theorem skipBlanks_cons {c : Char} (visible : isBlank c = false) (others : List Char) :
    skipBlanks (c :: others) = c :: others := by
  rw [skipBlanks, List.dropWhile_cons_of_neg (by rw [visible]; exact Bool.false_ne_true)]

/-- A line in front of a text is the first of its lines. -/
theorem writtenLines_append {c : Char} {others : List Char} (visible : isBlank c = false)
    (inLine : '\n' ∉ c :: others) (rest : List Char) :
    writtenLines (c :: others ++ '\n' :: rest) = (c :: others) :: writtenLines rest := by
  rw [writtenLines, List.splitOn_append_cons_self_of_not_mem inLine, List.map_cons,
    skipBlanks_cons visible, List.filter_cons_of_pos (by simp)]
  rfl

/-- Any other character begins a line, which goes on to the end of that line. -/
theorem writtenLines_cons {c : Char} (visible : isBlank c = false) (inLine : c ≠ '\n')
    (text : List Char) :
    ∃ others rest, text = others ++ rest ∧ AtLineEnd rest ∧
      writtenLines (c :: text) = (c :: others) :: writtenLines rest := by
  have outside : ∀ others : List Char, '\n' ∉ others → '\n' ∉ c :: others :=
    fun others absent => List.not_mem_cons_of_ne_of_not_mem inLine.symm absent
  by_cases ended : '\n' ∈ text
  · obtain ⟨others, behind, rfl, absent⟩ := List.eq_append_cons_of_mem ended
    refine ⟨others, '\n' :: behind, rfl, atLineEnd_newline behind, ?_⟩
    rw [← List.cons_append, writtenLines_append visible (outside others absent),
      writtenLines_newline]
  · refine ⟨text, [], (List.append_nil text).symm, atLineEnd_nil, ?_⟩
    rw [writtenLines, List.splitOn_eq_singleton (outside text ended), List.map_singleton,
      skipBlanks_cons visible, List.filter_cons_of_pos (by simp), List.filter_nil,
      writtenLines_nil]

/-- A blank is skipped. -/
theorem skipLines?_blank {c : Char} (blank : isBlank c = true) (text : List Char) :
    skipLines? false (c :: text) = skipLines? false text := by
  simp only [isBlank, Bool.or_eq_true, beq_iff_eq] at blank
  rcases blank with rfl | rfl <;> rfl

/-- What begins a line, and neither a comment nor the end of a line, is not. -/
theorem skipLines?_cons {c : Char} (visible : isBlank c = false) (inLine : c ≠ '\n')
    (outside : c ≠ '#') (here : c ≠ '\r') (text : List Char) :
    skipLines? false (c :: text) = some (c :: text) := by
  rw [skipLines?, if_neg Bool.false_ne_true, visible, if_neg Bool.false_ne_true, if_neg outside]
  · exact inLine
  · exact fun _ same _ => here same

/-- Behind its first blanks and line ends a text is empty or begins with a line, and they make no
difference to its lines and to what is skipped. -/
theorem exists_behindBlanks (text : List Char) :
    ∃ rest, (∀ c ∈ rest.head?, isBlank c = false ∧ c ≠ '\n') ∧ rest.length ≤ text.length ∧
      writtenLines text = writtenLines rest ∧ skipLines? false text = skipLines? false rest := by
  induction text with
  | nil => exact ⟨[], nofun, Nat.le_refl _, rfl, rfl⟩
  | cons c text ih =>
    obtain ⟨rest, begins, shorter, lines, skipped⟩ := ih
    have longer : rest.length ≤ (c :: text).length := Nat.le_succ_of_le shorter
    by_cases newline : c = '\n'
    · subst newline
      exact ⟨rest, begins, longer, (writtenLines_newline text).trans lines, skipped⟩
    · cases blank : isBlank c with
      | true =>
        exact ⟨rest, begins, longer, (writtenLines_blank blank text).trans lines,
          (skipLines?_blank blank text).trans skipped⟩
      | false =>
        refine ⟨c :: text, fun d same => ?_, Nat.le_refl _, rfl, rfl⟩
        obtain rfl := Option.some.inj same
        exact ⟨blank, newline⟩

/-- A text without lines is skipped. -/
theorem skipLines?_of_blank {text : List Char} (written : writtenLines text = []) :
    skipLines? false text = some [] := by
  obtain ⟨rest, begins, -, lines, skipped⟩ := exists_behindBlanks text
  rw [skipped]
  cases rest with
  | nil => rfl
  | cons c behind =>
    obtain ⟨visible, inLine⟩ := begins c rfl
    obtain ⟨others, later, -, -, shape⟩ := writtenLines_cons visible inLine behind
    rw [lines, shape] at written
    cases written

/-- A text is skipped up to its first line, if that is no comment. -/
theorem exists_skipLines? {line text : List Char} {lines : List (List Char)}
    (written : writtenLines text = line :: lines) (first : ∀ c ∈ line.head?, c ≠ '#' ∧ c ≠ '\r') :
    ∃ rest, skipLines? false text = some (line ++ rest) ∧ AtLineEnd rest ∧
      writtenLines rest = lines ∧ rest.length < text.length := by
  obtain ⟨found, begins, shorter, same, skipped⟩ := exists_behindBlanks text
  rw [same] at written
  cases found with
  | nil => cases written
  | cons c behind =>
    obtain ⟨visible, inLine⟩ := begins c rfl
    obtain ⟨others, rest, rfl, ended, shape⟩ := writtenLines_cons visible inLine behind
    rw [shape, List.cons.injEq] at written
    obtain ⟨rfl, rfl⟩ := written
    obtain ⟨outside, here⟩ := first c rfl
    have length : rest.length < text.length := by
      rw [List.length_cons, List.length_append] at shorter
      omega
    exact ⟨rest, skipped.trans (skipLines?_cons visible inLine outside here _), ended, rfl, length⟩

/-- The end of a line is read. -/
theorem lineEnd?_of_atLineEnd {rest : List Char} (ended : AtLineEnd rest) :
    ∃ behind, lineEnd? rest = some behind ∧ writtenLines behind = writtenLines rest ∧
      behind.length ≤ rest.length := by
  cases rest with
  | nil => exact ⟨[], rfl, rfl, Nat.le_refl _⟩
  | cons c behind =>
    obtain rfl := ended c rfl
    exact ⟨behind, rfl, (writtenLines_newline behind).symm, Nat.le_succ _⟩

/-- A text is read line by line: what is skipped before its first line, if that is no comment, and
the end of that line, behind which its other lines stand. -/
theorem exists_line {line text : List Char} {lines : List (List Char)}
    (written : writtenLines text = line :: lines) (first : ∀ c ∈ line.head?, c ≠ '#' ∧ c ≠ '\r') :
    ∃ rest behind, skipLines? false text = some (line ++ rest) ∧ AtLineEnd rest ∧
      lineEnd? rest = some behind ∧ writtenLines behind = lines ∧ behind.length < text.length := by
  obtain ⟨rest, skipped, ended, remaining, shorter⟩ := exists_skipLines? written first
  obtain ⟨behind, passed, same, within⟩ := lineEnd?_of_atLineEnd ended
  exact ⟨rest, behind, skipped, ended, passed, same.trans remaining, by omega⟩

/-! ## Keys -/

/-- A key that is written without quotation marks. -/
def IsBareKey (key : String) : Prop := key.toList ≠ [] ∧ key.toList.all inBareKey = true

instance (key : String) : Decidable (IsBareKey key) := inferInstanceAs (Decidable (_ ∧ _))

/-- A character of a bare key is none of the others. -/
theorem ne_of_inBareKey {c d : Char} (inside : inBareKey c = true) (outside : inBareKey d = false) :
    c ≠ d := by
  rintro rfl
  rw [inside] at outside
  cases outside

/-- A character of a bare key is no blank. -/
theorem isBlank_of_inBareKey {c : Char} (inside : inBareKey c = true) : isBlank c = false := by
  have space : c ≠ ' ' := ne_of_inBareKey inside (by decide)
  have tab : c ≠ '\t' := ne_of_inBareKey inside (by decide)
  simp [isBlank, space, tab]

/-- Nor does it end a word. -/
theorem endsWord_of_inBareKey {c : Char} (inside : inBareKey c = true) :
    Scalar.endsWord c = false := by
  cases ends : Scalar.endsWord c with
  | false => rfl
  | true =>
    simp only [Scalar.endsWord, Bool.or_eq_true, beq_iff_eq] at ends
    rcases ends with ((((((((rfl | rfl) | rfl) | rfl) | rfl) | rfl) | rfl) | rfl) | rfl) <;>
      exact absurd inside (by decide)

/-- A bare key begins with one of its characters. -/
theorem IsBareKey.exists_cons {key : String} (bare : IsBareKey key) :
    ∃ c others, key.toList = c :: others ∧ inBareKey c = true := by
  obtain ⟨nonempty, inside⟩ := bare
  obtain ⟨c, others, shape⟩ := List.exists_cons_of_ne_nil nonempty
  exact ⟨c, others, shape, List.all_eq_true.1 inside c (by rw [shape]; exact List.mem_cons_self)⟩

/-- A bare key is read as itself in front of another character. -/
theorem simpleKey?_of_isBareKey {key : String} (bare : IsBareKey key) {d : Char}
    (cut : inBareKey d = false) (rest : List Char) :
    simpleKey? (key.toList ++ d :: rest) = some (key, d :: rest) := by
  obtain ⟨c, others, shape, inside⟩ := bare.exists_cons
  have all : ∀ c ∈ key.toList, inBareKey c = true := List.all_eq_true.1 bare.2
  have stop : ¬ inBareKey d = true := by
    rw [cut]
    exact Bool.false_ne_true
  have taken : (key.toList ++ d :: rest).takeWhile inBareKey = key.toList := by
    rw [List.takeWhile_append_of_pos all, List.takeWhile_cons_of_neg stop, List.append_nil]
  have dropped : (key.toList ++ d :: rest).dropWhile inBareKey = d :: rest := by
    rw [List.dropWhile_append_of_pos all, List.dropWhile_cons_of_neg stop]
  unfold simpleKey?
  split
  · next other same =>
    rw [shape] at same
    exact absurd (List.cons.inj same).1 (ne_of_inBareKey inside (by decide))
  · next other same =>
    rw [shape] at same
    exact absurd (List.cons.inj same).1 (ne_of_inBareKey inside (by decide))
  · rw [taken, dropped]
    split
    · next empty => exact absurd empty bare.1
    · rw [String.ofList_toList]

/-- It is a dotted key by itself, if behind blanks no point follows. -/
theorem dottedKey?_of_isBareKey {key : String} (bare : IsBareKey key) {d e : Char}
    {rest behind : List Char} (cut : inBareKey d = false)
    (skipped : skipBlanks (d :: rest) = e :: behind) (last : e ≠ '.') :
    dottedKey? (key.toList ++ d :: rest) = some ([], key, e :: behind) := by
  have front : skipBlanks (key.toList ++ d :: rest) = key.toList ++ d :: rest := by
    obtain ⟨c, others, shape, inside⟩ := bare.exists_cons
    rw [shape, List.cons_append, skipBlanks_cons (isBlank_of_inBareKey inside)]
  rw [dottedKey?, maximumDepth, keyOf?, front, simpleKey?_of_isBareKey bare cut]
  simp only [Option.bind_eq_bind, Option.bind_some, skipped]
  split
  · next point => exact absurd (List.cons.inj point).1 last
  · rfl

/-! ## Values -/

/-- A word that is read as a node wherever a line ends behind it. -/
structure StandsFor (word : List Char) (node : Node) : Prop where
  /-- It does not begin with blanks. -/
  front : ∀ rest, AtLineEnd rest → skipBlanks (word ++ rest) = word ++ rest
  /-- It is read. -/
  read : ∀ bound depth rest, AtLineEnd rest →
    value? (bound + 1) depth (word ++ rest) = some (node, rest)

/-- A word of characters of bare keys ends where the line does. -/
theorem word_append {token rest : List Char} (inside : ∀ c ∈ token, inBareKey c = true)
    (ended : AtLineEnd rest) : Scalar.word (token ++ rest) = (token, rest) := by
  unfold Scalar.word
  induction token with
  | nil =>
    cases rest with
    | nil => rfl
    | cons c behind =>
      obtain rfl := ended c rfl
      rfl
  | cons c token ih =>
    obtain ⟨here, later⟩ := List.forall_mem_cons.1 inside
    rw [List.cons_append, Scalar.wordFrom, isBlank_of_inBareKey here,
      endsWord_of_inBareKey here, ih later]
    rfl

/-- It stands for the scalar it is read as. -/
theorem standsFor_scalar {token : List Char} {node : Node} (nonempty : token ≠ [])
    (inside : ∀ c ∈ token, inBareKey c = true) (read : Scalar.node? token = some node) :
    StandsFor token node := by
  obtain ⟨c, others, rfl⟩ := List.exists_cons_of_ne_nil nonempty
  have first := inside c List.mem_cons_self
  constructor
  · intro rest ended
    rw [List.cons_append, skipBlanks_cons (isBlank_of_inBareKey first)]
  · intro bound depth rest ended
    rw [List.cons_append, value?, if_neg, ← List.cons_append, word_append inside ended]
    · change (Scalar.node? (c :: others)).map (·, rest) = _
      rw [read, Option.map_some]
    · exact not_or.2 ⟨ne_of_inBareKey first (by decide), ne_of_inBareKey first (by decide)⟩
    · exact ne_of_inBareKey first (by decide)
    · exact ne_of_inBareKey first (by decide)

/-- A character that stands for itself in a basic string. -/
def inBasic (c : Char) : Bool := Quoted.isPlain c && c != Quoted.basicMark && c != '\\'

/-- A basic string without escapes is read up to its closing mark. -/
theorem basic?_append {content : List Char} (inside : ∀ c ∈ content, inBasic c = true)
    (rest : List Char) :
    Quoted.basic? (content ++ Quoted.basicMark :: rest) = some (content, rest) := by
  induction content with
  | nil => rfl
  | cons c content ih =>
    obtain ⟨here, later⟩ := List.forall_mem_cons.1 inside
    simp only [inBasic, Bool.and_eq_true, bne_iff_ne] at here
    obtain ⟨⟨plain, unquoted⟩, unescaped⟩ := here
    rw [List.cons_append, Quoted.basic?, ih later]
    · simp [unescaped, plain, Quoted.prepend]
    · exact unquoted
    -- The other cases are escapes.
    all_goals
      intros
      exact absurd ‹c = '\\'› unescaped

/-- A basic string is read up to its closing mark also where a mark of several lines might begin. -/
theorem read?_append {content rest : List Char} (inside : ∀ c ∈ content, inBasic c = true)
    (ended : AtLineEnd rest) :
    Quoted.read? (Quoted.basicMark :: (content ++ Quoted.basicMark :: rest)) =
      some (content, rest) := by
  have single : ∀ behind, content ++ Quoted.basicMark :: rest ≠
      Quoted.basicMark :: Quoted.basicMark :: behind := by
    intro behind same
    cases content with
    | nil =>
      rw [List.nil_append, List.cons.injEq] at same
      rw [same.2] at ended
      exact absurd (ended _ rfl) (by decide)
    | cons c content =>
      rw [List.cons_append, List.cons.injEq] at same
      obtain ⟨rfl, -⟩ := same
      exact absurd (inside _ List.mem_cons_self) (by decide)
  rw [Quoted.read?, basic?_append inside]
  exact single

/-- A basic string stands for its content. -/
theorem standsFor_basic {content : List Char} (inside : ∀ c ∈ content, inBasic c = true) :
    StandsFor (Quoted.basicMark :: (content ++ [Quoted.basicMark]))
      (.string (String.ofList content)) := by
  have shape : ∀ rest : List Char, Quoted.basicMark :: (content ++ [Quoted.basicMark]) ++ rest =
      Quoted.basicMark :: (content ++ Quoted.basicMark :: rest) := by
    intro rest
    rw [List.cons_append, List.append_assoc, List.singleton_append]
  constructor
  · intro rest ended
    rfl
  · intro bound depth rest ended
    rw [shape, value?, if_pos (.inl rfl), read?_append inside ended, Option.map_some]
    · decide
    · decide

/-! ## Numerals -/

open Numeral

/-- A numeral has the value of its number in a document. -/
theorem natural_digits (n : Nat) : Scalar.natural 10 (digits n) = n := by
  calc Scalar.natural 10 (digits n)
      = (digits n).foldl (fun sum c => 10 * sum + (c.toNat - '0'.toNat)) 0 := by
        refine List.foldl_ext _ _ 0 fun sum c member => ?_
        rw [Scalar.digitValue, if_pos (isDigit_of_mem member), Nat.mul_comm]
        rfl
    _ = Nat.ofDigitChars 10 (digits n) 0 := Nat.ofDigitChars_eq_foldl.symm
    _ = n := ofDigitChars_digits n

/-- A row of digits has no underscores to remove. -/
theorem separated_of_isDigit {row : List Char} (nonempty : row ≠ [])
    (all : ∀ c ∈ row, c.isDigit = true) : Scalar.separated Char.isDigit row = some row := by
  induction row with
  | nil => exact absurd rfl nonempty
  | cons c rest ih =>
    obtain ⟨here, later⟩ := List.forall_mem_cons.1 all
    match rest with
    | [] => rw [Scalar.separated, if_pos here]
    | d :: others =>
      have next : d ≠ '_' := by
        rintro rfl
        exact absurd (later '_' List.mem_cons_self) (by decide)
      rw [Scalar.separated, if_pos here, ih (List.cons_ne_nil d others) later, Option.map_some]
      exact next

/-- A numeral is a decimal number. -/
theorem decimalDigits_digits (n : Nat) : Scalar.decimalDigits (digits n) = some (digits n) := by
  rw [Scalar.decimalDigits,
    separated_of_isDigit (digits_ne_nil n) fun _ member => isDigit_of_mem member]
  split
  · next second rest shape =>
    exact absurd (tail_eq_nil_of_zero (Option.some.inj shape)) (List.cons_ne_nil second rest)
  · rfl

/-- A numeral is an integer. -/
theorem integer?_digits (n : Nat) :
    Scalar.integer? (digits n) = some (Scalar.integerNode n) := by
  have unmarked : ∀ c, c.isDigit = false → ∀ rest, digits n ≠ '0' :: c :: rest := by
    intro c other rest shape
    exact not_mem_digits other n (by simp [shape])
  have unsigned : Scalar.signed (digits n) = (false, digits n) := by
    unfold Scalar.signed
    split
    · next rest shape => exact absurd shape (digits_ne_cons (by decide) n rest)
    · next rest shape => exact absurd shape (digits_ne_cons (by decide) n rest)
    · rfl
  unfold Scalar.integer?
  split
  · next rest shape => exact absurd shape (unmarked 'x' (by decide) rest)
  · next rest shape => exact absurd shape (unmarked 'o' (by decide) rest)
  · next rest shape => exact absurd shape (unmarked 'b' (by decide) rest)
  · simp only [unsigned, decimalDigits_digits, natural_digits, Bool.false_eq_true, if_false]

/-- A numeral is read as an integer. -/
theorem node?_digits (n : Nat) : Scalar.node? (digits n) = some (Scalar.integerNode n) := by
  rw [Scalar.node?, if_neg (digits_ne_cons (by decide) n _),
    if_neg (digits_ne_cons (by decide) n _), integer?_digits]
  rfl

/-- It has a value if that fits into 128 bits. -/
theorem integerNode_of_lt {n : Nat} (fits : n < Nat.pow 2 128) :
    Scalar.integerNode n = .integer n := by
  have upper : Int.pow 2 128 = Nat.pow 2 128 := rfl
  have lower : 0 ≤ Int.pow 2 127 := by decide
  rw [Scalar.integerNode, if_pos (by omega)]

/-- It stands for its number. -/
theorem standsFor_digits (n : Nat) : StandsFor (digits n) (Scalar.integerNode n) := by
  have inside : ∀ c ∈ digits n, inBareKey c = true := by
    intro c member
    simp [inBareKey, Char.isAlphanum, isDigit_of_mem member]
  exact standsFor_scalar (digits_ne_nil n) inside (node?_digits n)

/-! ## Lines of a document -/

/-- The line of a key and a word. -/
def keyLine (key word : String) : String := key ++ " = " ++ word

/-- The line of a header. -/
def headerLine (name : String) : String := "[" ++ name ++ "]"

theorem toList_keyLine (key word : String) :
    (keyLine key word).toList = key.toList ++ ' ' :: '=' :: ' ' :: word.toList := by
  rw [keyLine, String.toList_append, String.toList_append, List.append_assoc]
  rfl

theorem toList_headerLine (name : String) :
    (headerLine name).toList = '[' :: (name.toList ++ [']']) := by
  rw [headerLine, String.toList_append, String.toList_append, List.append_assoc]
  rfl

/-- The text of lines. -/
def linesText (lines : List String) : String := String.join (lines.map (· ++ "\n"))

/-- A line that is neither blank nor indented. -/
def IsLine (line : String) : Prop :=
  (∃ c ∈ line.toList.head?, isBlank c = false) ∧ '\n' ∉ line.toList

/-- A header is a line. -/
theorem isLine_headerLine {name : String} (bare : IsBareKey name) : IsLine (headerLine name) := by
  rw [IsLine, toList_headerLine]
  refine ⟨⟨'[', rfl, by decide⟩, fun member => ?_⟩
  rcases List.mem_cons.1 member with same | inside
  · exact absurd same (by decide)
  · rcases List.mem_append.1 inside with inside | inside
    · exact absurd (List.all_eq_true.1 bare.2 _ inside) (by decide)
    · exact absurd inside (by decide)

/-- An assignment of a word without line ends is a line. -/
theorem isLine_keyLine {key word : String} (bare : IsBareKey key) (inLine : '\n' ∉ word.toList) :
    IsLine (keyLine key word) := by
  obtain ⟨c, others, shape, inside⟩ := bare.exists_cons
  rw [IsLine, toList_keyLine]
  refine ⟨⟨c, by rw [shape]; rfl, isBlank_of_inBareKey inside⟩, fun member => ?_⟩
  rcases List.mem_append.1 member with here | there
  · exact absurd (List.all_eq_true.1 bare.2 _ here) (by decide)
  · simp [inLine] at there

/-- In the text of lines these are found, except for empty ones. -/
theorem writtenLines_linesText {lines : List String}
    (each : ∀ line ∈ lines, line = "" ∨ IsLine line) :
    writtenLines (linesText lines).toList = (lines.filter (· ≠ "")).map String.toList := by
  have shape : ∀ others, (linesText others).toList =
      others.flatMap fun line => line.toList ++ ['\n'] := by
    intro others
    simp [linesText, List.flatMap_map]
  rw [shape]
  induction lines with
  | nil => rfl
  | cons line others ih =>
    obtain ⟨here, later⟩ := List.forall_mem_cons.1 each
    rw [List.flatMap_cons, List.append_assoc, List.singleton_append]
    rcases here with rfl | ⟨⟨c, first, visible⟩, inLine⟩
    · exact (writtenLines_newline _).trans (ih later)
    · obtain ⟨rest, front⟩ := List.head?_eq_some_iff.1 first
      have full : line ≠ "" := by
        rintro rfl
        cases front
      rw [List.filter_cons_of_pos (by simpa using full), List.map_cons, front]
      rw [front] at inLine
      rw [writtenLines_append visible inLine, ih later]

/-- An assignment of a word to a bare key, and the node the word stands for. -/
structure Assigned where
  /-- The key. -/
  key : String
  /-- The word. -/
  word : String
  /-- What the word stands for. -/
  node : Node
  /-- The key needs no quotation marks. -/
  bare : IsBareKey key
  /-- The word is read as the node. -/
  reads : StandsFor word.toList node

/-- The line of an assignment. -/
def Assigned.line (assigned : Assigned) : String := keyLine assigned.key assigned.word

/-- The entry of an assignment. -/
def Assigned.entry (assigned : Assigned) : String × Node := (assigned.key, assigned.node)

namespace Assigned

variable (assigned : Assigned) (rest : List Char)

/-- The line of an assignment, in front of any text. -/
theorem line_append : assigned.line.toList ++ rest =
    assigned.key.toList ++ ' ' :: '=' :: ' ' :: (assigned.word.toList ++ rest) := by
  rw [line, toList_keyLine, List.append_assoc]
  rfl

/-- It begins with a character of a key. -/
theorem exists_line_append :
    ∃ c others, assigned.line.toList ++ rest = c :: others ∧ inBareKey c = true := by
  obtain ⟨c, others, shape, inside⟩ := assigned.bare.exists_cons
  exact ⟨c, _, by rw [line_append, shape, List.cons_append], inside⟩

/-- Its key is read. -/
theorem dottedKey?_line : dottedKey? (assigned.line.toList ++ rest) =
    some ([], assigned.key, '=' :: ' ' :: (assigned.word.toList ++ rest)) := by
  rw [line_append]
  exact dottedKey?_of_isBareKey assigned.bare (by decide) rfl (by decide)

/-- Its word is read, if the line ends behind it. -/
theorem value?_word {rest : List Char} (ended : AtLineEnd rest) {bound : Nat} (enough : 0 < bound) :
    value? bound maximumDepth (skipBlanks (' ' :: (assigned.word.toList ++ rest))) =
      some (assigned.node, rest) := by
  obtain ⟨bound, rfl⟩ := Nat.exists_eq_add_one_of_ne_zero (Nat.ne_of_gt enough)
  have front : skipBlanks (' ' :: (assigned.word.toList ++ rest)) = assigned.word.toList ++ rest :=
    assigned.reads.front rest ended
  rw [front]
  exact assigned.reads.read bound maximumDepth rest ended

end Assigned

/-- Lines that lead from a table under construction to a tree, however they are laid out. -/
def ReadsAs (current : List String) (root : Table) (lines : List String) (tree : Table) : Prop :=
  ∀ bound text, text.length < bound → writtenLines text = lines.map String.toList →
    lines? bound current root text = some tree

namespace ReadsAs

variable {current : List String} {root next tree : Table} {lines : List String}

/-- At the end of the lines the tree is complete. -/
theorem nil : ReadsAs current root [] root := by
  intro bound text enough written
  obtain ⟨bound, rfl⟩ := Nat.exists_eq_add_one_of_ne_zero (Nat.ne_zero_of_lt enough)
  rw [lines?, skipLines?_of_blank written]
  rfl

/-- A header opens its table. -/
theorem header {name : String} (bare : IsBareKey name) (opened : root.openTable [] name = some next)
    (later : ReadsAs [name] next lines tree) :
    ReadsAs current root (headerLine name :: lines) tree := by
  intro bound text enough written
  obtain ⟨bound, rfl⟩ := Nat.exists_eq_add_one_of_ne_zero (Nat.ne_zero_of_lt enough)
  have first : ∀ c ∈ (headerLine name).toList.head?, c ≠ '#' ∧ c ≠ '\r' := by
    intro c begins
    rw [toList_headerLine] at begins
    obtain rfl := Option.some.inj begins
    decide
  obtain ⟨rest, behind, skipped, ended, passed, remaining, shorter⟩ := exists_line written first
  have front : (headerLine name).toList ++ rest = '[' :: (name.toList ++ ']' :: rest) := by
    rw [toList_headerLine, List.cons_append, List.append_assoc, List.singleton_append]
  -- A second bracket would make it the header of a list of tables.
  have single : ∀ other, name.toList ++ ']' :: rest ≠ '[' :: other := by
    obtain ⟨c, others, shape, inside⟩ := bare.exists_cons
    intro other
    rw [shape, List.cons_append]
    exact fun equal => ne_of_inBareKey inside (by decide) (List.cons.inj equal).1
  have key : dottedKey? (name.toList ++ ']' :: rest) = some ([], name, ']' :: rest) :=
    dottedKey?_of_isBareKey bare (by decide) rfl (by decide)
  rw [lines?, skipped, front]
  simp only [Option.bind_eq_bind, Option.bind_some, key, opened, passed, List.nil_append]
  exact later bound behind (by omega) remaining

/-- An assignment adds its entry to the table of the header before it. -/
theorem assignment {assigned : Assigned}
    (added : root.descend false current (·.insert [] assigned.key assigned.node) = some next)
    (later : ReadsAs current next lines tree) :
    ReadsAs current root (assigned.line :: lines) tree := by
  intro bound text enough written
  obtain ⟨bound, rfl⟩ := Nat.exists_eq_add_one_of_ne_zero (Nat.ne_zero_of_lt enough)
  have first : ∀ c ∈ assigned.line.toList.head?, c ≠ '#' ∧ c ≠ '\r' := by
    intro c begins
    obtain ⟨d, others, shape, inside⟩ := assigned.exists_line_append []
    rw [List.append_nil] at shape
    rw [shape] at begins
    obtain rfl := Option.some.inj begins
    exact ⟨ne_of_inBareKey inside (by decide), ne_of_inBareKey inside (by decide)⟩
  obtain ⟨rest, behind, skipped, ended, passed, remaining, shorter⟩ := exists_line written first
  obtain ⟨c, others, shape, inside⟩ := assigned.exists_line_append rest
  have unbracketed : ∀ after, assigned.line.toList ++ rest ≠ '[' :: after := by
    intro after bracketed
    exact ne_of_inBareKey inside (by decide) (List.cons.inj (shape.symm.trans bracketed)).1
  rw [lines?, skipped]
  simp only [Option.bind_eq_bind, Option.bind_some]
  split
  · next empty => exact absurd (shape.symm.trans empty) (List.cons_ne_nil c others)
  · next after bracketed => exact absurd bracketed (unbracketed _)
  · next after _ bracketed => exact absurd bracketed (unbracketed _)
  · have enough : 0 < bound := by omega
    simp only [assigned.dottedKey?_line, assigned.value?_word ended enough, added, passed,
      Option.bind_some]
    exact later bound behind (by omega) remaining

end ReadsAs

/-! ## Sections -/

namespace Table

variable {key : String} {update : Option Node → Option Node} {front rest : Entries}

/-- Entries of other keys are passed. -/
theorem change_append (apart : key ∉ front.map Prod.fst) :
    change key update (front ++ rest) = (change key update rest).map (front ++ ·) := by
  induction front with
  | nil => simp
  | cons entry front ih =>
    obtain ⟨name, node⟩ := entry
    rw [List.map_cons, List.mem_cons, not_or] at apart
    obtain ⟨here, later⟩ := apart
    rw [List.cons_append, change, if_neg (Ne.symm here), ih later, Option.map_map]
    rfl

/-- A new key is added behind the entries. -/
theorem change_of_not_mem (apart : key ∉ front.map Prod.fst) :
    change key update front = (update none).map fun node => front ++ [(key, node)] := by
  have added : change key update (front ++ []) = (change key update []).map (front ++ ·) :=
    change_append apart
  rw [List.append_nil, change, Option.map_map] at added
  exact added

/-- The entry of a key at the end is changed. -/
theorem change_concat (apart : key ∉ front.map Prod.fst) (node : Node) :
    change key update (front ++ [(key, node)]) =
      (update (some node)).map fun node => front ++ [(key, node)] := by
  rw [change_append apart, change, if_pos rfl, Option.map_map]
  rfl

end Table

/-- A header and the assignments below it. -/
structure Section where
  /-- The name in the header. -/
  name : String
  /-- The assignments. -/
  assigned : List Assigned
  /-- The name needs no quotation marks. -/
  bare : IsBareKey name
  /-- No key is assigned twice. -/
  distinct : (assigned.map Assigned.key).Nodup

namespace Section

/-- The lines of a section. -/
def lines (part : Section) : List String :=
  headerLine part.name :: part.assigned.map Assigned.line

/-- The entries of a section. -/
def entries (part : Section) : Entries := part.assigned.map Assigned.entry

/-- The entry of a section in its document. -/
def entry (part : Section) : String × Node := (part.name, .table .header part.entries)

end Section

/-- What stands once in a list does not stand before itself. -/
theorem not_mem_of_nodup {α : Type} {x : α} {front rest : List α}
    (distinct : (front ++ [x] ++ rest).Nodup) : x ∉ front := by
  have init : (front ++ [x]).Nodup := (List.nodup_append.1 distinct).1
  exact fun member => (List.nodup_append.1 init).2.2 x member x List.mem_cons_self rfl

namespace ReadsAs

variable {tree : Table} {lines : List String}

/-- Assignments to new keys add their entries to the table of the last header, in order. -/
theorem assignments {front content : Entries} {name : String} {assigned : List Assigned}
    (apart : name ∉ front.map Prod.fst)
    (distinct : (content.map Prod.fst ++ assigned.map Assigned.key).Nodup)
    (later : ReadsAs [name]
      (.header, front ++ [(name, .table .header (content ++ assigned.map Assigned.entry))])
      lines tree) :
    ReadsAs [name] (.header, front ++ [(name, .table .header content)])
      (assigned.map Assigned.line ++ lines) tree := by
  induction assigned generalizing content with
  | nil => rwa [List.map_nil, List.append_nil] at later
  | cons first others ih =>
    rw [List.map_cons, List.append_cons] at distinct
    rw [List.map_cons, List.append_cons content] at later
    have fresh : first.key ∉ content.map Prod.fst := not_mem_of_nodup distinct
    have added : Table.descend false [name] (·.insert [] first.key first.node)
        (.header, front ++ [(name, .table .header content)]) =
        some (.header, front ++ [(name, .table .header (content ++ [first.entry]))]) := by
      simp only [Table.descend, Table.insert, Table.change_concat apart]
      rw [Table.change_of_not_mem fresh]
      rfl
    refine assignment added (ih ?_ later)
    rw [List.map_append]
    exact distinct

/-- Sections of new names add their entries to the document, in order. -/
theorem sections {front : Entries} {parts : List Section} (current : List String)
    (distinct : (front.map Prod.fst ++ parts.map Section.name).Nodup) :
    ReadsAs current (.header, front) (parts.flatMap Section.lines)
      (.header, front ++ parts.map Section.entry) := by
  induction parts generalizing front current with
  | nil =>
    rw [List.map_nil, List.append_nil]
    exact nil
  | cons part parts ih =>
    rw [List.map_cons, List.append_cons] at distinct
    have apart : part.name ∉ front.map Prod.fst := not_mem_of_nodup distinct
    have opened : Table.openTable [] part.name (.header, front) =
        some (.header, front ++ [(part.name, .table .header [])]) := by
      simp only [Table.openTable, Table.descend]
      rw [Table.change_of_not_mem apart]
      rfl
    rw [List.flatMap_cons, Section.lines, List.cons_append]
    refine header part.bare opened (assignments apart part.distinct ?_)
    rw [List.map_cons, List.append_cons front part.entry]
    refine ih [part.name] ?_
    rw [List.map_append]
    exact distinct

end ReadsAs

/-- A text that consists of the lines of sections has no mark at its beginning. -/
theorem withoutMark_of_sections {text : List Char} {parts : List Section}
    (written : writtenLines text = (parts.flatMap Section.lines).map String.toList) :
    Text.withoutMark text = text := by
  unfold Text.withoutMark
  split
  · next rest =>
    obtain ⟨others, behind, -, -, shape⟩ :=
      writtenLines_cons (c := '\ufeff') (by decide) (by decide) rest
    rw [shape] at written
    cases parts with
    | nil => cases written
    | cons part parts =>
      rw [List.flatMap_cons, Section.lines, List.cons_append, List.map_cons,
        toList_headerLine] at written
      exact absurd (List.cons.inj (List.cons.inj written).1).1 (by decide)
  · rfl

/-- A text that consists of the lines of sections is the document of these sections. -/
theorem document?_of_sections {text : String} {parts : List Section}
    (distinct : (parts.map Section.name).Nodup)
    (written : writtenLines text.toList = (parts.flatMap Section.lines).map String.toList) :
    document? text = some (parts.map Section.entry) := by
  have read : ReadsAs [] (.header, []) (parts.flatMap Section.lines)
      (.header, parts.map Section.entry) := ReadsAs.sections [] distinct
  rw [document?, withoutMark_of_sections written, read _ _ (Nat.lt_succ_self _) written,
    Option.map_some]

end BoundSql.Toml
