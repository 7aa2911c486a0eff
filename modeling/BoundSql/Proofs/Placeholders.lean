import BoundSql.Proofs.DeleteText
import BoundSql.Proofs.Numerals

/-!
# Placeholders and values

A reader of a numbered statement takes every dollar sign together with the longest run of
digits behind it. That this reader finds the placeholders as they were written needs two
things: no other dollar sign stands in the text (`Plain`), and no digit stands directly
behind a value (`Spaced`), where it would be read as part of the number. Every value of a
statement is followed by a comma, a blank or a parenthesis, so every statement is spaced,
whatever its raw texts are.
-/

namespace BoundSql

open BoundSql.Symbol (ofText spell Plain)

/-- What a reader of numbered statements tells apart. -/
inductive Piece where
  /-- A dollar sign, with the digits behind it. -/
  | mark (digits : List Char)
  /-- Any other character. -/
  | other (c : Char)
deriving DecidableEq, Repr

namespace Piece

/-- The pieces of a text, from left to right; every run of digits is as long as possible. -/
def read : List Char → List Piece
  | [] => []
  | c :: rest =>
    if c = '$' then mark (rest.takeWhile Char.isDigit) :: read (rest.dropWhile Char.isDigit)
    else other c :: read rest
termination_by text => text.length
decreasing_by
  · have shorter := (List.dropWhile_suffix (l := rest) Char.isDigit).length_le
    simp only [List.length_cons]
    omega
  · simp only [List.length_cons]
    omega

/-- The placeholders among the pieces. -/
def marks : List Piece → List String
  | [] => []
  | mark digits :: rest => ("$" ++ String.ofList digits) :: marks rest
  | other _ :: rest => marks rest

/-- The pieces with a question mark in place of every placeholder. -/
def masked : List Piece → List Char
  | [] => []
  | mark _ :: rest => '?' :: masked rest
  | other c :: rest => c :: masked rest

theorem read_other {c : Char} (ordinary : c ≠ '$') (rest : List Char) :
    read (c :: rest) = other c :: read rest := by
  rw [read, if_neg ordinary]

/-- A run of digits with no digit behind it is read as a whole. -/
theorem read_mark {digits rest : List Char} (all : ∀ c ∈ digits, c.isDigit = true)
    (ends : rest.takeWhile Char.isDigit = []) :
    read ('$' :: (digits ++ rest)) = mark digits :: read rest := by
  have behind : rest.dropWhile Char.isDigit = rest := by
    have whole := List.takeWhile_append_dropWhile (p := Char.isDigit) (l := rest)
    rwa [ends, List.nil_append] at whole
  rw [read, if_pos rfl, List.takeWhile_append_of_pos all, List.dropWhile_append_of_pos all, ends,
    behind, List.append_nil]

end Piece

namespace Symbol

/-- No digit stands at the beginning of a row. -/
def Apart : List Symbol → Prop
  | char c :: _ => c.isDigit = false
  | _ => True

/-- No digit stands directly behind a value. -/
def Spaced : List Symbol → Prop
  | [] => True
  | char _ :: rest => Spaced rest
  | value _ :: rest => Apart rest ∧ Spaced rest

@[simp] theorem spaced_nil : Spaced [] := trivial

@[simp] theorem apart_nil : Apart [] := trivial

@[simp] theorem spaced_cons_value {v : Value} {rest : List Symbol} :
    Spaced (value v :: rest) ↔ Apart rest ∧ Spaced rest := Iff.rfl

/-- A text before a row does not matter. -/
@[simp] theorem spaced_ofText_append (s : String) (rest : List Symbol) :
    Spaced (ofText s ++ rest) ↔ Spaced rest := by
  unfold ofText
  induction s.toList with
  | nil => exact Iff.rfl
  | cons c more ih => exact ih

/-- A row that starts with a text of at least one character starts as the text does. -/
theorem apart_ofText_append {s : String} {first : Char} (starts : s.toList.head? = some first)
    (clean : first.isDigit = false) (rest : List Symbol) : Apart (ofText s ++ rest) := by
  unfold ofText
  cases shape : s.toList with
  | nil => simp [shape] at starts
  | cons c more =>
    have same : c = first := by simpa [shape] using starts
    subst same
    exact clean

/-- Where no digit stands at the beginning of a row, none stands at the beginning of its
spelling: placeholders start with a dollar sign. -/
theorem takeWhile_isDigit_spell {rest : List Symbol} (apart : Apart rest) (bound : Nat) :
    (spell .dollar bound rest).takeWhile Char.isDigit = [] := by
  cases rest with
  | nil => rfl
  | cons symbol more =>
    cases symbol with
    | char c =>
      have nondigit : c.isDigit = false := apart
      rw [spell, List.takeWhile_cons, nondigit]
      rfl
    | value v => simp [spell, PlaceholderStyle.mark]

/-- What a reader should find where `bound` values already stand before the row. -/
def pieces (bound : Nat) : List Symbol → List Piece
  | [] => []
  | char c :: rest => .other c :: pieces bound rest
  | value _ :: rest => .mark (toString (bound + 1)).toList :: pieces (bound + 1) rest

/-- A reader finds every placeholder as it was written, and every other character. -/
theorem read_spell {symbols : List Symbol} (plain : Plain symbols) (spaced : Spaced symbols)
    (bound : Nat) : Piece.read (spell .dollar bound symbols) = pieces bound symbols := by
  induction symbols generalizing bound with
  | nil => rw [spell, Piece.read, pieces]
  | cons symbol rest ih =>
    cases symbol with
    | char c =>
      obtain ⟨clean, others⟩ := plain_cons_char.1 plain
      have foreign : c ≠ '$' := by
        rintro rfl
        exact absurd clean (by decide)
      rw [spell, Piece.read_other foreign, ih others spaced, pieces]
    | value v =>
      obtain ⟨apart, later⟩ := spaced
      have shape : (PlaceholderStyle.mark .dollar (bound + 1)).toList =
          '$' :: (toString (bound + 1)).toList := by
        simp [PlaceholderStyle.mark]
      have digits : ∀ c ∈ (toString (bound + 1)).toList, c.isDigit = true :=
        fun _ member => Numeral.isDigit_of_mem member
      rw [spell, shape, List.cons_append, Piece.read_mark digits
          (takeWhile_isDigit_spell apart (bound + 1)),
        ih (plain_cons_value.1 plain) later, pieces]

/-- The placeholders of a row are numbered through. -/
theorem marks_pieces (symbols : List Symbol) (bound : Nat) :
    Piece.marks (pieces bound symbols) =
      (List.range' (bound + 1) (values symbols).length).map
        (fun number => "$" ++ toString number) := by
  induction symbols generalizing bound with
  | nil => rfl
  | cons symbol rest ih =>
    cases symbol with
    | char c => rw [pieces, Piece.marks, ih, values]
    | value v =>
      rw [pieces, Piece.marks, ih, values, List.length_cons, List.range'_succ, List.map_cons,
        String.ofList_toList]

/-- With question marks for its placeholders a row is spelled as in the other style. -/
theorem masked_pieces (symbols : List Symbol) (bound start : Nat) :
    Piece.masked (pieces bound symbols) = spell .question start symbols := by
  induction symbols generalizing bound start with
  | nil => rfl
  | cons symbol rest ih =>
    cases symbol with
    | char c => rw [pieces, Piece.masked, ih bound start, spell]
    | value v =>
      have shape : (PlaceholderStyle.mark .question (start + 1)).toList = ['?'] := by
        simp [PlaceholderStyle.mark]
      rw [pieces, Piece.masked, ih (bound + 1) (start + 1), spell, shape, List.singleton_append]

/-- The question marks of a plain row are its values. -/
theorem count_spell_question {symbols : List Symbol} (plain : Plain symbols) (bound : Nat) :
    (spell .question bound symbols).count '?' = (values symbols).length := by
  induction symbols generalizing bound with
  | nil => rfl
  | cons symbol rest ih =>
    cases symbol with
    | char c =>
      obtain ⟨clean, others⟩ := plain_cons_char.1 plain
      have foreign : c ≠ '?' := by
        rintro rfl
        exact absurd clean (by decide)
      rw [spell, List.count_cons_of_ne foreign, ih others, values]
    | value v =>
      have shape : (PlaceholderStyle.mark .question (bound + 1)).toList = ['?'] := by
        simp [PlaceholderStyle.mark]
      rw [spell, shape, List.singleton_append, List.count_cons_self,
        ih (plain_cons_value.1 plain), values, List.length_cons]

end Symbol

open BoundSql.Symbol (Apart Spaced)

/-- What separates items and closes lists keeps a value apart from a digit. -/
theorem apart_comma (rest : List Symbol) : Apart (ofText ", " ++ rest) :=
  Symbol.apart_ofText_append rfl (by decide) rest

/-- Items that are spaced with anything behind them that is no digit are spaced in a row. -/
theorem Draft.spaced_separated {α : Type} {write : α → Draft} {items : List α} {rest : List Symbol}
    (each : ∀ item ∈ items, ∀ more, Apart more → Spaced more →
      Spaced ((write item).symbols ++ more))
    (apart : Apart rest) (spaced : Spaced rest) :
    Spaced ((separated ", " write items).symbols ++ rest) := by
  induction items with
  | nil => exact spaced
  | cons item others ih =>
    have first := each item List.mem_cons_self
    have later := ih fun member inside => each member (List.mem_cons_of_mem item inside)
    cases others with
    | nil => exact first rest apart spaced
    | cons next more =>
      have tail : Spaced (ofText ", " ++ ((separated ", " write (next :: more)).symbols ++ rest)) :=
        (Symbol.spaced_ofText_append ", " _).2 later
      have row := first _ (apart_comma _) tail
      simpa [separated] using row

/-- Values in a list are spaced if no digit stands behind the list. -/
theorem Draft.spaced_params {α : Type} {value : α → Value} {items : List α} {rest : List Symbol}
    (apart : Apart rest) (spaced : Spaced rest) :
    Spaced ((separated ", " (fun item => param (value item)) items).symbols ++ rest) := by
  refine spaced_separated (fun item _ more free later => ?_) apart spaced
  rw [symbols_param, List.singleton_append]
  exact ⟨free, later⟩

/-- The end of a condition keeps its operand apart from what follows. -/
theorem Condition.spaced_operandDraft (operand : Operand) {rest : List Symbol} (apart : Apart rest)
    (spaced : Spaced rest) : Spaced ((operandDraft operand).symbols ++ rest) := by
  cases operand with
  | none => exact spaced
  | single v =>
    have bound : Spaced (.value v :: rest) := ⟨apart, spaced⟩
    simpa [operandDraft] using bound
  | list vs =>
    have closing : Apart (ofText ")" ++ rest) := Symbol.apart_ofText_append rfl (by decide) rest
    have inside : Spaced ((Draft.separated ", " Draft.param vs).symbols ++ (ofText ")" ++ rest)) :=
      Draft.spaced_params closing ((Symbol.spaced_ofText_append ")" rest).2 spaced)
    simpa [operandDraft] using inside

/-- A condition does not end in a value, so anything may follow it. -/
theorem Condition.spaced_draft (unqualified : Option TableName) (c : Condition) {rest : List Symbol}
    (spaced : Spaced rest) : Spaced ((c.draft unqualified).symbols ++ rest) := by
  have closing : Apart (ofText " )" ++ rest) := Symbol.apart_ofText_append rfl (by decide) rest
  have operand := spaced_operandDraft c.operand closing
    ((Symbol.spaced_ofText_append " )" rest).2 spaced)
  have target : ∀ more, Spaced more →
      Spaced ((qualifierDraft unqualified c.qualifier).symbols ++ more) := by
    intro more later
    cases c.qualifier with
    | none => exact later
    | some name =>
      simp only [qualifierDraft]
      split <;> simpa using later
  rw [symbols_draft_append]
  refine (Symbol.spaced_ofText_append _ _).2 (target _ ?_)
  simpa using operand

mutual

/-- A part does not end in a value: anything may follow it, also a digit of a raw text. -/
theorem Part.spaced_draft (unqualified : Option TableName) : (part : Part) →
    {rest : List Symbol} → Spaced rest → Spaced ((part.draft unqualified).symbols ++ rest)
  | .condition c, _, spaced => c.spaced_draft unqualified spaced
  | .group .empty, _, spaced => spaced
  | .group (.entry link part others), rest, spaced => by
    have closed : Spaced (ofText ")" ++ rest) := (Symbol.spaced_ofText_append ")" rest).2 spaced
    have inside := Block.spaced_draft unqualified (.entry link part others) closed
    simpa [Part.draft] using inside
  | .text text, _, spaced => by simpa [Part.draft] using spaced

/-- A block does not end in a value. -/
theorem Block.spaced_draft (unqualified : Option TableName) : (block : Block) →
    {rest : List Symbol} → Spaced rest → Spaced ((block.draft unqualified).symbols ++ rest)
  | .empty, _, spaced => spaced
  | .entry link part others, rest, spaced => by
    have later := Block.spaced_draft unqualified others spaced
    have first := Part.spaced_draft unqualified part later
    cases link with
    | none => simpa [Block.draft, Combinator.linkDraft] using first
    | some combinator => simpa [Block.draft, Combinator.linkDraft] using first

end

/-- A clause does not end in a value, and a blank stands before it. -/
theorem spaced_whereDraft (unqualified : Option TableName) (filter : Block) {rest : List Symbol}
    (spaced : Spaced rest) : Spaced ((whereDraft unqualified filter).symbols ++ rest) := by
  have group := Part.spaced_draft unqualified (.group filter) spaced
  unfold whereDraft
  by_cases vacant : filter.isEmpty = true
  · rw [if_pos vacant]
    exact spaced
  · rw [if_neg vacant]
    simpa [Block.groupedDraft] using group

theorem apart_whereDraft (unqualified : Option TableName) (filter : Block) :
    Apart (whereDraft unqualified filter).symbols := by
  unfold whereDraft
  by_cases vacant : filter.isEmpty = true
  · rw [if_pos vacant]
    exact Symbol.apart_nil
  · rw [if_neg vacant, Draft.symbols_append, Draft.symbols_text]
    exact Symbol.apart_ofText_append rfl (by decide) _

/-- A join does not end in a value. -/
theorem Join.spaced_draft (join : Join) {rest : List Symbol} (spaced : Spaced rest) :
    Spaced (join.draft.symbols ++ rest) := by
  have closed : Spaced (ofText " )" ++ rest) := (Symbol.spaced_ofText_append " )" rest).2 spaced
  have condition := join.condition.spaced_draft none closed
  simpa [draft] using condition

theorem Select.spaced_joins (joins : List Join) {rest : List Symbol} (spaced : Spaced rest) :
    Spaced (Draft.symbols (joins.flatMap fun join => Draft.text " " ++ join.draft) ++ rest) := by
  induction joins with
  | nil => exact spaced
  | cons join others ih =>
    have first := join.spaced_draft ih
    simpa using first

theorem Select.spaced_columns (columns : Projection) {rest : List Symbol} (apart : Apart rest)
    (spaced : Spaced rest) : Spaced (columns.draft.symbols ++ rest) := by
  refine Draft.spaced_separated (fun column _ more _ later => ?_) apart spaced
  simpa [ProjectedColumn.draft] using later

theorem Select.spaced_orderDraft (orderings : List OrderBy) :
    Spaced (orderDraft orderings).symbols := by
  have entries : ∀ (ordering : OrderBy) (rest : List Symbol), Apart rest → Spaced rest →
      Spaced (ordering.draft.symbols ++ rest) := by
    intro ordering rest apart spaced
    refine Draft.spaced_separated (fun entry _ more _ later => ?_) apart spaced
    simpa using later
  have used : ∀ orderings : List OrderBy,
      Spaced ((Draft.separated ", " OrderBy.draft orderings).symbols ++ []) := by
    intro orderings
    exact Draft.spaced_separated (fun ordering _ => entries ordering) Symbol.apart_nil
      Symbol.spaced_nil
  unfold orderDraft
  split
  · exact Symbol.spaced_nil
  · simpa using used _

/-- In no statement a digit stands directly behind a value. -/
theorem Statement.spaced_draft (s : Statement) : Spaced s.draft.symbols := by
  cases s with
  | select s =>
    have order := Select.spaced_orderDraft s.orderings
    have filter := spaced_whereDraft none s.filter order
    have joins := Select.spaced_joins s.joins filter
    have columns := Select.spaced_columns s.columns
      (Symbol.apart_ofText_append (s := " FROM ") rfl (by decide) _)
      ((Symbol.spaced_ofText_append " FROM " _).2
        ((Symbol.spaced_ofText_append s.table.name.text _).2
          ((Symbol.spaced_ofText_append " AS " _).2
            ((Symbol.spaced_ofText_append s.table.aliasName.text _).2 joins))))
    simpa [draft, Select.draft] using columns
  | insert s =>
    have values : Spaced ((Draft.separated ", " (fun a => Draft.param a.value)
        s.assignments).symbols ++ (ofText " )" ++ [])) :=
      Draft.spaced_params (Symbol.apart_ofText_append rfl (by decide) _)
        ((Symbol.spaced_ofText_append " )" []).2 Symbol.spaced_nil)
    have targets : Spaced ((Draft.separated ", " Assignment.targetDraft s.assignments).symbols ++
        (ofText " ) VALUES( " ++ ((Draft.separated ", " (fun a => Draft.param a.value)
          s.assignments).symbols ++ (ofText " )" ++ [])))) := by
      refine Draft.spaced_separated (fun assignment _ more _ later => ?_)
        (Symbol.apart_ofText_append rfl (by decide) _) ((Symbol.spaced_ofText_append _ _).2 values)
      simpa [Assignment.targetDraft] using later
    simpa [draft, Insert.draft] using targets
  | update s =>
    have filter := spaced_whereDraft none s.filter Symbol.spaced_nil
    rw [List.append_nil] at filter
    have assignments : Spaced ((Draft.separated ", " Assignment.draft s.assignments).symbols ++
        (whereDraft none s.filter).symbols) := by
      refine Draft.spaced_separated (fun assignment _ more free later => ?_)
        (apart_whereDraft none s.filter) filter
      have bound : Spaced (.value assignment.value :: more) := ⟨free, later⟩
      simpa [Assignment.draft] using bound
    simpa [draft, Update.draft] using assignments
  | delete s =>
    have filter := spaced_whereDraft (some s.table.aliasName) s.filter Symbol.spaced_nil
    simpa [draft, Delete.draft] using filter

/-- Placeholders and values correspond in every statement whose raw texts bring no
placeholder of their own: there are as many question marks as values; a reader of the
numbered text finds exactly the numbers from one to the number of values, in order; the
two texts differ in the placeholders only; and both styles bind the same values. -/
theorem Statement.placeholders_match {s : Statement} {finished : Draft}
    (assembled : s.assemble = .ok finished)
    (clean : ∀ text ∈ s.rawTexts, '?' ∉ text.toList ∧ '$' ∉ text.toList) :
    (finished.bake .question).text.toList.count '?' = (finished.bake .question).params.length ∧
    (finished.bake .question).placeholderCount = (finished.bake .question).params.length ∧
    finished.paramCount = (finished.bake .question).params.length ∧
    Piece.marks (Piece.read (finished.bake .dollar).text.toList) =
      (List.range' 1 (finished.bake .dollar).params.length).map
        (fun number => "$" ++ toString number) ∧
    String.ofList (Piece.masked (Piece.read (finished.bake .dollar).text.toList)) =
      (finished.bake .question).text ∧
    (finished.bake .dollar).params = (finished.bake .question).params := by
  have shape := eq_canonical_of_assemble assembled
  have symbols : finished.symbols = s.draft.symbols := by rw [shape, Draft.symbols_canonical]
  have texts : ∀ text ∈ s.rawTexts, Plain (ofText text) := by
    intro text member
    refine Symbol.plain_ofText.2 fun c inside => ?_
    simp only [Symbol.ordinary, Bool.and_eq_true, bne_iff_ne]
    constructor
    · rintro rfl
      exact (clean text member).1 inside
    · rintro rfl
      exact (clean text member).2 inside
  have plain : Plain finished.symbols := symbols ▸ plain_draft texts
  have spaced : Spaced finished.symbols := symbols ▸ spaced_draft s
  have pieces : Piece.read (finished.bake .dollar).text.toList =
      Symbol.pieces 0 finished.symbols := by
    rw [Draft.toList_text_bake]
    exact Symbol.read_spell plain spaced 0
  refine ⟨?_, rfl, rfl, ?_, ?_, rfl⟩
  · rw [Draft.toList_text_bake, Symbol.count_spell_question plain, Draft.values_symbols,
      Draft.params_bake]
  · rw [pieces, Symbol.marks_pieces, Draft.values_symbols, Draft.params_bake]
  · apply String.toList_injective
    rw [String.toList_ofList, pieces, Symbol.masked_pieces _ 0 0, Draft.toList_text_bake]

namespace Sample

/-- An update with a value of its own, raw text and nested conditions. -/
def renamed : Update :=
  { table := users, assignments := [⟨named.column, users.aliasName, .text "Ada"⟩]
    filter := mixed }

end Sample

/-- An update by raw text and nested conditions has a value of its own and three in its
filter, and its placeholders are numbered through. -/
theorem Statement.placeholders_match_renamed :
    assemble (.update Sample.renamed) = .ok Sample.renamed.draft.canonical ∧
    (∀ text ∈ rawTexts (.update Sample.renamed), '?' ∉ text.toList ∧ '$' ∉ text.toList) ∧
    (Sample.renamed.draft.canonical.bake .question).text.toList.count '?' = 4 ∧
    Piece.marks (Piece.read (Sample.renamed.draft.canonical.bake .dollar).text.toList) =
      ["$1", "$2", "$3", "$4"] := by
  have assembled : assemble (.update Sample.renamed) = .ok Sample.renamed.draft.canonical := rfl
  have clean : ∀ text ∈ rawTexts (.update Sample.renamed),
      '?' ∉ text.toList ∧ '$' ∉ text.toList := by
    have texts : rawTexts (.update Sample.renamed) = ["u.id = mu.user_id"] := rfl
    rw [texts]
    decide
  have bound : Sample.renamed.draft.canonical.values =
      [.text "Ada", .integer 1, .integer 2, .text "Ada"] := by
    rw [Draft.values_canonical]
    rfl
  obtain ⟨counted, _, _, numbered, _⟩ := placeholders_match assembled clean
  rw [Draft.params_bake, bound] at counted numbered
  exact ⟨assembled, clean, counted, numbered⟩

end BoundSql
