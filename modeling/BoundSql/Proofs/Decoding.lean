import BoundSql.Proofs.Plain

/-!
# Reading filters back

The text of a selection and its values determine the filter. Every part of a block shows
where it ends: a condition ends with its closing parenthesis, which follows its operand,
and a nested block with the parenthesis that no combinator follows. A part is told apart
by what follows its opening parenthesis: a blank in a condition, the parenthesis of the
first part in a nested block. So the symbols of two filters agree only if the filters
agree part by part (`Part.eq_of_symbols_eq`), values included.
-/

namespace BoundSql

open BoundSql.Symbol (ofText)

/-- The operator with what stands between it and its operand, or behind it if there is no
operand. -/
def Comparison.opening (comparison : Comparison) : String :=
  comparison.sql ++ match comparison.arity with
    | .none => " )"
    | .single => " "
    | .list => " ("

/-- No opening starts another one, although some operators start others. -/
theorem Comparison.eq_of_opening_prefix {first second : Comparison}
    (starts : first.opening.toList <+: second.opening.toList) : first = second := by
  revert starts
  cases first <;> cases second <;> simp [opening, sql, arity]

/-- What follows the opening of an operand. -/
def Operand.closing (rest : List Symbol) : Operand → List Symbol
  | .none => rest
  | .single v => .value v :: (ofText " )" ++ rest)
  | .list vs => (Draft.separated ", " Draft.param vs).symbols ++ (ofText ") )" ++ rest)

/-- From the operator on, a condition consists of its opening and its closing. -/
theorem Condition.symbols_from_operator {comparison : Comparison} {operand : Operand}
    (arities : operand.arity = comparison.arity) (rest : List Symbol) :
    ofText comparison.sql ++ ((operandDraft operand).symbols ++ (ofText " )" ++ rest)) =
      ofText comparison.opening ++ operand.closing rest := by
  have joined : ofText ")" ++ (ofText " )" ++ rest) = ofText ") )" ++ rest := by
    simp [ofText]
  cases operand <;>
    simp [Comparison.opening, ← arities, Operand.arity, Operand.closing, operandDraft, joined]

/-- Two lists of values, each with a parenthesis behind it, are cut off in one way only. -/
theorem Draft.eq_of_separated_params {vs vs' : List Value} {rest rest' : List Symbol}
    (present : vs ≠ []) (present' : vs' ≠ [])
    (same : (separated ", " param vs).symbols ++ .char ')' :: rest =
      (separated ", " param vs').symbols ++ .char ')' :: rest') :
    vs = vs' ∧ rest = rest' := by
  induction vs generalizing vs' with
  | nil => exact absurd rfl present
  | cons v more ih =>
    cases vs' with
    | nil => exact absurd rfl present'
    | cons v' more' =>
      cases more with
      | nil => cases more' <;> simp_all [separated, ofText]
      | cons next others =>
        cases more' with
        | nil => simp [separated, ofText] at same
        | cons next' others' =>
          simp only [separated, symbols_append, symbols_param, symbols_text, ofText,
            List.cons_append, List.append_assoc, List.cons.injEq, List.append_cancel_left_eq,
            Symbol.value.injEq, List.nil_append] at same
          obtain ⟨tails, rests⟩ := ih (by simp) (by simp) same.2
          exact ⟨by rw [same.1, tails], rests⟩

/-- Operands of one arity, each with the end of its condition behind it, are cut off in
one way only. -/
theorem Operand.eq_of_closing_eq {operand operand' : Operand} {rest rest' : List Symbol}
    (arities : operand.arity = operand'.arity) (present : operand ≠ .list [])
    (present' : operand' ≠ .list []) (same : operand.closing rest = operand'.closing rest') :
    operand = operand' ∧ rest = rest' := by
  cases operand with
  | none => cases operand' <;> simp_all [arity, closing]
  | single v => cases operand' <;> simp_all [arity, closing]
  | list vs =>
    cases operand' with
    | none => simp [arity] at arities
    | single v => simp [arity] at arities
    | list vs' =>
      have inside : vs ≠ [] := fun nothing => present (by rw [nothing])
      have inside' : vs' ≠ [] := fun nothing => present' (by rw [nothing])
      simp only [closing, ofText] at same
      obtain ⟨rfl, rests⟩ := Draft.eq_of_separated_params inside inside' same
      exact ⟨rfl, by simpa using rests⟩

/-- Operators with operands they admit, each with the end of its condition behind it, are
cut off in one way only. -/
theorem Condition.eq_of_operator_eq {comparison comparison' : Comparison}
    {operand operand' : Operand} {rest rest' : List Symbol} (admitted : comparison.Admits operand)
    (admitted' : comparison'.Admits operand')
    (same : ofText comparison.sql ++ ((operandDraft operand).symbols ++ (ofText " )" ++ rest)) =
      ofText comparison'.sql ++ ((operandDraft operand').symbols ++ (ofText " )" ++ rest'))) :
    comparison = comparison' ∧ operand = operand' ∧ rest = rest' := by
  rw [symbols_from_operator admitted.1, symbols_from_operator admitted'.1] at same
  have operators : comparison = comparison' := by
    rcases List.append_eq_append_iff.1 same with ⟨more, longer, _⟩ | ⟨more, longer, _⟩
    · refine Comparison.eq_of_opening_prefix ?_
      exact (List.prefix_map_iff_of_injective fun _ _ => Symbol.char.inj).1 ⟨more, longer.symm⟩
    · refine (Comparison.eq_of_opening_prefix ?_).symm
      exact (List.prefix_map_iff_of_injective fun _ _ => Symbol.char.inj).1 ⟨more, longer.symm⟩
  subst operators
  have closings := List.append_cancel_left same
  exact ⟨rfl, Operand.eq_of_closing_eq (admitted.1.trans admitted'.1.symm) admitted.2 admitted'.2
    closings⟩

/-- The characters of a word, as symbols, continue a name. -/
theorem IsWord.continues_ofText {name : String} (word : IsWord name) :
    ∀ symbol ∈ ofText name, ∃ c, symbol = .char c ∧ continuesName c = true := by
  intro symbol inside
  obtain ⟨c, member, rfl⟩ := List.mem_map.1 inside
  exact ⟨c, rfl, word.continues c member⟩

/-- Two words with a mark behind each are cut off in one way only. -/
theorem IsWord.eq_of_ofText_eq {name name' : String} {mark mark' : Char} {rest rest' : List Symbol}
    (word : IsWord name) (word' : IsWord name') (outside : continuesName mark = false)
    (outside' : continuesName mark' = false)
    (same : ofText name ++ .char mark :: rest = ofText name' ++ .char mark' :: rest') :
    name = name' ∧ mark = mark' ∧ rest = rest' := by
  obtain ⟨names, marks, rests⟩ := cut_at_mark word.continues_ofText word'.continues_ofText
    (by simp [outside]) (by simp [outside']) same
  exact ⟨Symbol.eq_of_ofText_eq names, Symbol.char.inj marks, rests⟩

namespace Condition

/-- What stands before the operator: the column, behind the qualifier if there is one. -/
theorem symbols_target (qualifier : Option TableName) (column : ColumnName) (rest : List Symbol) :
    (qualifierDraft none qualifier).symbols ++ (ofText column.text ++ (ofText " " ++ rest)) =
      match qualifier with
      | none => ofText column.text ++ .char ' ' :: rest
      | some name => ofText name.text ++ .char '.' :: (ofText column.text ++ .char ' ' :: rest) := by
  cases qualifier <;> simp [qualifierDraft, ofText]

/-- Two columns, qualified or bare, with a blank behind each are cut off in one way only:
a point shows that a word is a qualifier, a blank that it is the column. -/
theorem eq_of_target_eq {qualifier qualifier' : Option TableName} {column column' : ColumnName}
    {rest rest' : List Symbol}
    (same : (qualifierDraft none qualifier).symbols ++ (ofText column.text ++ (ofText " " ++ rest)) =
      (qualifierDraft none qualifier').symbols ++
        (ofText column'.text ++ (ofText " " ++ rest'))) :
    qualifier = qualifier' ∧ column = column' ∧ rest = rest' := by
  rw [symbols_target, symbols_target] at same
  have columns : ∀ {rest rest' : List Symbol}, ofText column.text ++ .char ' ' :: rest =
      ofText column'.text ++ .char ' ' :: rest' → column = column' ∧ rest = rest' := by
    intro rest rest' same
    obtain ⟨names, _, rests⟩ :=
      column.isWord.eq_of_ofText_eq column'.isWord (by decide) (by decide) same
    exact ⟨ColumnName.eq_of_toList (congrArg String.toList names), rests⟩
  cases qualifier with
  | none =>
    cases qualifier' with
    | none => exact ⟨rfl, columns same⟩
    | some name' =>
      have marks := (column.isWord.eq_of_ofText_eq name'.isWord (by decide) (by decide) same).2.1
      exact absurd marks (by decide)
  | some name =>
    cases qualifier' with
    | none =>
      have marks := (name.isWord.eq_of_ofText_eq column'.isWord (by decide) (by decide) same).2.1
      exact absurd marks (by decide)
    | some name' =>
      obtain ⟨names, _, behind⟩ :=
        name.isWord.eq_of_ofText_eq name'.isWord (by decide) (by decide) same
      have qualifiers := TableName.eq_of_toList (congrArg String.toList names)
      exact ⟨congrArg some qualifiers, columns behind⟩

/-- The symbols of a condition, followed by others. -/
theorem symbols_draft_append (unqualified : Option TableName) (c : Condition)
    (rest : List Symbol) :
    (c.draft unqualified).symbols ++ rest =
      ofText "( " ++ ((qualifierDraft unqualified c.qualifier).symbols ++ (ofText c.column.text ++
        (ofText " " ++ (ofText c.comparison.sql ++ ((operandDraft c.operand).symbols ++
          (ofText " )" ++ rest)))))) := by
  simp [draft]

/-- Conditions at the beginning of two rows of symbols are read off in one way only. -/
theorem eq_of_symbols_eq {c c' : Condition} {rest rest' : List Symbol}
    (same : (c.draft none).symbols ++ rest = (c'.draft none).symbols ++ rest') :
    c = c' ∧ rest = rest' := by
  rw [symbols_draft_append, symbols_draft_append] at same
  obtain ⟨qualifiers, columns, behind⟩ := eq_of_target_eq (List.append_cancel_left same)
  obtain ⟨operators, operands, rests⟩ := eq_of_operator_eq c.admitted c'.admitted behind
  refine ⟨?_, rests⟩
  cases c
  cases c'
  simp_all

end Condition

/-- A nested block with parts stands in parentheses. -/
theorem Part.symbols_group {block : Block} (present : block ≠ .empty) :
    ((Part.group block).draft none).symbols =
      ofText "(" ++ (block.draft none).symbols ++ ofText ")" := by
  cases block with
  | empty => exact absurd rfl present
  | entry link part rest => simp [Part.draft]

/-- A part that is not raw text opens a parenthesis; a blank follows in a condition and
another parenthesis in a nested block. -/
theorem Part.symbols_start : {part : Part} → part.WellLinked → part.rawTexts = [] →
    ∃ rest, (part.draft none).symbols = .char '(' :: rest ∧
      rest.head? = some (.char (match part with | .condition _ => ' ' | _ => '('))
  | .condition c, _, _ => by
    have shape := Condition.symbols_draft_append none c []
    have opens : ofText "( " = [.char '(', .char ' '] := rfl
    rw [List.append_nil, opens] at shape
    exact ⟨_, shape, rfl⟩
  | .group .empty, sound, _ => absurd rfl sound.1
  | .group (.entry link part rest), sound, bare => by
    obtain ⟨present, first, inner, _⟩ := sound
    simp only [rawTexts, Block.rawTexts, List.append_eq_nil_iff] at bare
    obtain ⟨more, opens, _⟩ := Part.symbols_start inner bare.1
    have unlinked : link = none := by simpa using first
    refine ⟨(Block.draft none (.entry link part rest)).symbols ++ ofText ")", ?_, ?_⟩
    · simp [Part.symbols_group present, Symbol.ofText]
    · simp [Block.draft, unlinked, Combinator.linkDraft, opens]
  | .text _, _, bare => by simp [rawTexts] at bare

/-- The symbols of a part in the middle of a row start with a blank. -/
theorem Block.symbols_link (combinator : Combinator) (part : Part) (rest : Block) :
    ((Block.entry (some combinator) part rest).draft none).symbols =
      ofText " " ++ (ofText combinator.sql ++ (ofText " " ++
        ((part.draft none).symbols ++ (rest.draft none).symbols))) := by
  simp [Block.draft, Combinator.linkDraft]

/-- Combinators, each with a blank behind it, are told apart by their first letter. -/
theorem Combinator.eq_of_sql_eq {first second : Combinator} {rest rest' : List Symbol}
    (same : ofText first.sql ++ (ofText " " ++ rest) = ofText second.sql ++ (ofText " " ++ rest')) :
    first = second ∧ rest = rest' := by
  cases first <;> cases second <;> simp_all [sql, Symbol.ofText]

mutual

/-- Parts at the beginning of two rows of symbols are read off in one way only. -/
theorem Part.eq_of_symbols_eq : {part part' : Part} → part.WellLinked → part'.WellLinked →
    part.rawTexts = [] → part'.rawTexts = [] → {rest rest' : List Symbol} →
      (part.draft none).symbols ++ rest = (part'.draft none).symbols ++ rest' →
        part = part' ∧ rest = rest'
  | .condition c, .condition c', _, _, _, _, rest, rest', same => by
    obtain ⟨rfl, rests⟩ := Condition.eq_of_symbols_eq same
    exact ⟨rfl, rests⟩
  | .condition c, .group block, sound, sound', bare, bare', rest, rest', same => by
    obtain ⟨more, opens, next⟩ := Part.symbols_start sound bare
    obtain ⟨more', opens', next'⟩ := Part.symbols_start sound' bare'
    have seconds := congrArg (fun symbols => (symbols.drop 1).head?) same
    simp [opens, opens', List.head?_append, next, next'] at seconds
  | .group block, .condition c', sound, sound', bare, bare', rest, rest', same => by
    obtain ⟨more, opens, next⟩ := Part.symbols_start sound bare
    obtain ⟨more', opens', next'⟩ := Part.symbols_start sound' bare'
    have seconds := congrArg (fun symbols => (symbols.drop 1).head?) same
    simp [opens, opens', List.head?_append, next, next'] at seconds
  | .group .empty, .group _, sound, _, _, _, _, _, _ => absurd rfl sound.1
  | .group (.entry ..), .group .empty, _, sound', _, _, _, _, _ => absurd rfl sound'.1
  | .group (.entry link part tail), .group (.entry link' part' tail'), sound, sound', bare, bare',
      rest, rest', same => by
    obtain ⟨present, first, inner, others⟩ := sound
    obtain ⟨present', first', inner', others'⟩ := sound'
    simp only [Part.rawTexts, Block.rawTexts, List.append_eq_nil_iff] at bare bare'
    have unlinked : link = none := by simpa using first
    have unlinked' : link' = none := by simpa using first'
    subst unlinked unlinked'
    rw [Part.symbols_group present, Part.symbols_group present'] at same
    simp only [Block.draft, Combinator.linkDraft, Draft.symbols_append,
      List.nil_append, List.append_assoc, List.append_cancel_left_eq] at same
    obtain ⟨rfl, tails⟩ := Part.eq_of_symbols_eq inner inner' bare.1 bare'.1 same
    obtain ⟨rfl, rests⟩ := Block.eq_of_symbols_eq others others' bare.2 bare'.2 tails
    exact ⟨rfl, rests⟩
  | .text _, _, _, _, bare, _, _, _, _ => by simp [Part.rawTexts] at bare
  | _, .text _, _, _, _, bare', _, _, _ => by simp [Part.rawTexts] at bare'

/-- Rows of further parts, each with the parenthesis that closes its block behind it, are
read off in one way only. -/
theorem Block.eq_of_symbols_eq : {block block' : Block} → block.WellLinked false →
    block'.WellLinked false → block.rawTexts = [] → block'.rawTexts = [] →
      {rest rest' : List Symbol} →
        (block.draft none).symbols ++ (ofText ")" ++ rest) =
          (block'.draft none).symbols ++ (ofText ")" ++ rest') → block = block' ∧ rest = rest'
  | .empty, .empty, _, _, _, _, rest, rest', same => by simpa [Block.draft] using same
  | .empty, .entry (some combinator) part tail, _, _, _, _, rest, rest', same => by
    rw [Block.symbols_link] at same
    simp [Block.draft, Symbol.ofText] at same
  | .entry (some combinator) part tail, .empty, _, _, _, _, rest, rest', same => by
    rw [Block.symbols_link] at same
    simp [Block.draft, Symbol.ofText] at same
  | .entry none part tail, _, sound, _, _, _, _, _, _ => by simp [Block.WellLinked] at sound
  | _, .entry none part tail, _, sound', _, _, _, _, _ => by simp [Block.WellLinked] at sound'
  | .entry (some combinator) part tail, .entry (some combinator') part' tail', sound, sound', bare,
      bare', rest, rest', same => by
    obtain ⟨_, inner, others⟩ := sound
    obtain ⟨_, inner', others'⟩ := sound'
    simp only [Block.rawTexts, List.append_eq_nil_iff] at bare bare'
    rw [Block.symbols_link, Block.symbols_link] at same
    simp only [List.append_assoc, List.append_cancel_left_eq] at same
    obtain ⟨rfl, parts⟩ := Combinator.eq_of_sql_eq same
    obtain ⟨rfl, tails⟩ := Part.eq_of_symbols_eq inner inner' bare.1 bare'.1 parts
    obtain ⟨rfl, rests⟩ := Block.eq_of_symbols_eq others others' bare.2 bare'.2 tails
    exact ⟨rfl, rests⟩

end

/-- A selection of some columns can be assembled. -/
theorem Select.assemble_eq_ok {s : Select} (present : s.columns ≠ []) :
    s.assemble = .ok s.draft.canonical := by
  have known : s.columns.isEmpty = false := by simpa using present
  rw [assemble, known]
  rfl

/-- Without joins and orderings the filter stands at the end of a selection. -/
theorem Select.symbols_filtered (table : TableRef) (columns : Projection) (filter : Block) :
    (draft { table, columns, filter }).symbols =
      (draft { table, columns }).symbols ++ (whereDraft none filter).symbols := by
  have unfiltered : whereDraft none .empty = [] := rfl
  have unordered : orderDraft [] = [] := rfl
  simp [draft, unfiltered, unordered]

/-- Clauses with the same symbols come from the same filter. -/
theorem eq_of_whereDraft_eq {first second : Block} (sound : first.WellLinked true)
    (sound' : second.WellLinked true) (bare : first.rawTexts = []) (bare' : second.rawTexts = [])
    (same : (whereDraft none first).symbols = (whereDraft none second).symbols) :
    first = second := by
  cases first with
  | empty =>
    cases second with
    | empty => rfl
    | entry link part rest => simp [whereDraft, Block.isEmpty, ofText] at same
  | entry link part rest =>
    cases second with
    | empty => simp [whereDraft, Block.isEmpty, ofText] at same
    | entry link' part' rest' =>
      have groups : ((Part.group (.entry link part rest)).draft none).symbols ++ [] =
          ((Part.group (.entry link' part' rest')).draft none).symbols ++ [] := by
        simpa [whereDraft, Block.isEmpty, Block.groupedDraft] using same
      have parts : Part.WellLinked (.group (.entry link part rest)) := ⟨by simp, sound⟩
      have parts' : Part.WellLinked (.group (.entry link' part' rest')) := ⟨by simp, sound'⟩
      exact Part.group.inj (Part.eq_of_symbols_eq parts parts' bare bare' groups).1

/-- The text and the values of a selection determine its filter, as long as no raw text
stands in it: different trees of conditions are never written alike. -/
theorem Select.filter_determined (table : TableRef) {columns : Projection} (present : columns ≠ [])
    (style : PlaceholderStyle) {first second : Block} (reachable : first.Reachable)
    (reachable' : second.Reachable) (bare : first.rawTexts = []) (bare' : second.rawTexts = []) :
    ∃ draft draft', assemble { table, columns, filter := first } = .ok draft ∧
      assemble { table, columns, filter := second } = .ok draft' ∧
      ((draft.bake style).text = (draft'.bake style).text →
        (draft.bake style).params = (draft'.bake style).params → first = second) := by
  refine ⟨_, _, assemble_eq_ok present, assemble_eq_ok present, ?_⟩
  intro sameText sameParams
  have plain : ∀ filter : Block, filter.rawTexts = [] →
      Symbol.Plain (draft { table, columns, filter }).canonical.symbols := by
    intro filter bare
    rw [Draft.symbols_canonical]
    exact plain_draft (by simp [bare]) (by simp)
  have same := Draft.symbols_eq_of_bake_eq (plain first bare) (plain second bare') sameText sameParams
  rw [Draft.symbols_canonical, Draft.symbols_canonical, symbols_filtered,
    symbols_filtered table columns second] at same
  exact eq_of_whereDraft_eq reachable.wellLinked reachable'.wellLinked bare bare'
    (List.append_cancel_left same)

namespace Sample

/-- The table `users`, referenced as `u`. -/
def users : TableRef := ⟨⟨"users", by decide +kernel⟩, ⟨"u", by decide +kernel⟩⟩

/-- The column `id` of the table. -/
def identity : ProjectedColumn := ⟨users.aliasName, ⟨"id", by decide⟩⟩

/-- The condition `u.id IN (1, 2)`. -/
def listed : Condition :=
  ⟨some users.aliasName, identity.column, .among, .list [.integer 1, .integer 2], by decide⟩

/-- The condition `name = 'Ada'`, without a qualifier. -/
def named : Condition := ⟨none, ⟨"name", by decide⟩, .equal, .single (.text "Ada"), by decide⟩

/-- Two conditions side by side. -/
def flat : Block := (Block.empty.addCondition none listed).addCondition (some .or) named

/-- The same two conditions, of which the second stands in a block of its own. -/
def nested : Block :=
  (Block.empty.addCondition none listed).addGroup (some .or) (Block.empty.addCondition none named)

/-- The flat block is built by operations on blocks. -/
theorem reachable_flat : flat.Reachable :=
  (Block.Reachable.empty.addCondition none listed).addCondition (some .or) named

/-- The nested block is built by operations on blocks. -/
theorem reachable_nested : nested.Reachable :=
  (Block.Reachable.empty.addCondition none listed).addGroup
    (Block.Reachable.empty.addCondition none named) (some .or)

end Sample

/-- A condition and the same condition in a block of its own are never written alike. -/
theorem Select.nesting_determined :
    [Sample.identity] ≠ [] ∧ Sample.flat.Reachable ∧ Sample.nested.Reachable ∧
      Sample.flat.rawTexts = [] ∧ Sample.nested.rawTexts = [] ∧
      ∃ draft draft',
        assemble { table := Sample.users, columns := [Sample.identity], filter := Sample.flat } =
          .ok draft ∧
        assemble { table := Sample.users, columns := [Sample.identity], filter := Sample.nested } =
          .ok draft' ∧
        ((draft.bake .dollar).text = (draft'.bake .dollar).text →
          (draft.bake .dollar).params = (draft'.bake .dollar).params →
            Sample.flat = Sample.nested) :=
  ⟨by simp, Sample.reachable_flat, Sample.reachable_nested, rfl, rfl,
    filter_determined Sample.users (by simp) .dollar Sample.reachable_flat Sample.reachable_nested
      rfl rfl⟩

end BoundSql
