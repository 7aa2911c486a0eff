import BoundSql.Proofs.DeleteText
import BoundSql.Proofs.RawTexts
import BoundSql.Proofs.TwoRuns

/-!
# The characters of finished statements

Whatever names and values a program is given, a statement without raw text is written with a few
printable ASCII characters (`lexical`): a name that got in has no others, and a value is a
placeholder. Back-ticks stand in updates alone, in pairs directly around the name of each column
that is assigned (`Quoted`).

This holds of every statement that can be put together (`Statement.safe_bake`), and so of every
statement that a program gets from its gateways and composites, unless it joins on raw text:
nothing a program keeps has raw text then (`Upkeep.texts`).
-/

namespace BoundSql

open Outcome
open BoundSql.Symbol (ofText spell Within)

/-- The characters of statements: ASCII letters and digits, and a few marks. -/
def lexical (c : Char) : Bool :=
  c.isAlphanum ||
    ['_', ' ', '.', ',', '(', ')', '=', '!', '<', '>', '?', '$', '`'].contains c

/-- The back-ticks of a text stand in pairs, directly around the given names. -/
inductive Quoted : List ColumnName → List Char → Prop where
  /-- There is no back-tick. -/
  | none {text : List Char} (bare : '`' ∉ text) : Quoted [] text
  /-- The first two back-ticks stand around a name. -/
  | name {before rest : List Char} {names : List ColumnName} (bare : '`' ∉ before)
      (first : ColumnName) (later : Quoted names rest) :
    Quoted (first :: names) (before ++ '`' :: (first.text.toList ++ '`' :: rest))

/-- The text of a statement that assigns the given columns is safe: it has no characters but
those of statements, and two back-ticks for each assignment, directly around the column. -/
structure Safe (names : List ColumnName) (text : String) : Prop where
  characters : ∀ c ∈ text.toList, lexical c = true
  pairs : text.toList.count '`' = 2 * names.length
  quoted : Quoted names text.toList

/-- Letters and digits are ASCII characters. -/
theorem toNat_lt_of_isAlphanum {c : Char} (letter : c.isAlphanum = true) : c.toNat < 128 := by
  rcases Bool.or_eq_true_iff.1 letter with alpha | digit
  · have bounds := isAlpha_iff_toNat.1 alpha
    omega
  · have last : c.toNat ≤ '9'.toNat := (Char.isDigit_iff_toNat.1 digit).2
    exact Nat.lt_of_le_of_lt last (by decide)

/-- The characters of statements are printable ASCII characters, and none of them ends a
statement, or starts a literal, an escape or a comment. -/
theorem printable_of_lexical {c : Char} (clean : lexical c = true) :
    ' ' ≤ c ∧ c ≤ '~' ∧ c ∉ ['\'', '"', ';', '\\', '-', '/', '*', '#'] := by
  have ascii : c.toNat < 128 := by
    simp only [lexical, Bool.or_eq_true, List.contains_eq_mem, decide_eq_true_eq] at clean
    rcases clean with letter | mark
    · exact toNat_lt_of_isAlphanum letter
    · simp only [List.mem_cons, List.not_mem_nil, or_false] at mark
      rcases mark with rfl | rfl | rfl | rfl | rfl | rfl | rfl | rfl | rfl | rfl | rfl | rfl |
        rfl <;> decide
  have table : ∀ n < 128, lexical (Char.ofNat n) = true → ' ' ≤ Char.ofNat n ∧
      Char.ofNat n ≤ '~' ∧ Char.ofNat n ∉ ['\'', '"', ';', '\\', '-', '/', '*', '#'] := by
    decide +kernel
  have entry := table c.toNat ascii
  rw [Char.ofNat_toNat] at entry
  exact entry clean

/-- What names, keywords, operators and separators are written with are characters of
statements. -/
theorem lexical_of_written {c : Char} (clean : written c = true) : lexical c = true := by
  simp only [written, continuesName, lexical, Bool.or_eq_true, List.contains_eq_mem, beq_iff_eq,
    decide_eq_true_eq, List.mem_cons, List.not_mem_nil, or_false] at clean ⊢
  tauto

namespace Quoted

variable {names : List ColumnName} {text : List Char}

/-- Text without back-ticks may stand in front. -/
theorem prepend {lead : List Char} (bare : '`' ∉ lead) (quoted : Quoted names text) :
    Quoted names (lead ++ text) := by
  cases quoted with
  | none without => exact .none (by simp [bare, without])
  | name without first later =>
    rw [← List.append_assoc]
    exact .name (by simp [bare, without]) first later

/-- There are two back-ticks for each name. -/
theorem count (quoted : Quoted names text) : text.count '`' = 2 * names.length := by
  induction quoted with
  | none bare => exact List.count_eq_zero.2 bare
  | name bare first later ih =>
    have before := List.count_eq_zero.2 bare
    have inside : first.text.toList.count '`' = 0 :=
      List.count_eq_zero.2 (first.isWord.not_mem (by decide))
    simp only [List.count_append, List.count_cons_self, before, inside, ih, List.length_cons]
    omega

end Quoted

section Rows

variable {style : PlaceholderStyle} {bound : Nat} {symbols : List Symbol}

/-- The row has no characters but those of names, keywords, operators and separators. -/
def Symbol.Bare (symbols : List Symbol) : Prop := Within (fun _ => False) symbols

/-- Texts that are not there need no extra characters. -/
theorem within_of_silent {extra : Char → Prop} {texts : List String} (silent : texts = []) :
    ∀ text ∈ texts, Within extra (ofText text) := by
  simp [silent]

/-- A bare row is spelled without back-ticks. -/
theorem Symbol.Bare.tick_not_mem_spell (bare : Bare symbols) : '`' ∉ spell style bound symbols := by
  intro member
  rcases mem_spell member with inside | question | dollar | digit
  · exact (bare '`' inside).elim (by decide) id
  · exact absurd question (by decide)
  · exact absurd dollar (by decide)
  · exact absurd digit (by decide)

/-- A row with back-ticks at most is spelled with the characters of statements, whatever its
values are. -/
theorem Symbol.Within.lexical_of_mem_spell (within : Within (fun c => c = '`') symbols) {c : Char}
    (member : c ∈ spell style bound symbols) : lexical c = true := by
  rcases mem_spell member with inside | rfl | rfl | digit
  · rcases within c inside with clean | rfl
    · exact lexical_of_written clean
    · decide
  · decide
  · decide
  · simp [lexical, Char.isAlphanum, digit]

/-- The first item of several, what separates it from the others, and the others. -/
theorem Draft.symbols_separated_cons {α : Type} (separator : String) (write : α → Draft) (item : α)
    (rest : List α) :
    (separated separator write (item :: rest)).symbols = (write item).symbols ++
      (ofText (if rest.isEmpty then "" else separator) ++
        (separated separator write rest).symbols) := by
  cases rest <;> simp [separated]

/-- The back-ticks of assignments stand around their columns. -/
theorem Assignment.quoted_spell (assignments : List Assignment) {tail : List Symbol}
    (bare : Symbol.Bare tail) :
    Quoted (assignments.map (·.column))
      (spell style bound ((Draft.separated ", " draft assignments).symbols ++ tail)) := by
  induction assignments generalizing bound with
  | nil => exact .none (by simpa [Draft.separated] using bare.tick_not_mem_spell)
  | cons a rest ih =>
    let glue := if rest.isEmpty then "" else ", "
    have lead : '`' ∉ a.qualifier.text.toList ++ ['.'] := by
      have name : '`' ∉ a.qualifier.text.toList := a.qualifier.isWord.not_mem (by decide)
      simp [name]
    have between : '`' ∉ [' ', '=', ' '] ++ (style.mark (bound + 1)).toList ++ glue.toList := by
      have mark : '`' ∉ spell style bound [.value a.value] :=
        Symbol.Bare.tick_not_mem_spell (by simp [Symbol.Bare])
      have separator : '`' ∉ glue.toList := by cases rest <;> simp [glue]
      simpa [spell, separator] using mark
    have shape := Quoted.name lead a.column ((@ih (bound + 1)).prepend between)
    rw [Draft.symbols_separated_cons]
    simpa [draft, spell, Symbol.spell_append, glue] using shape

/-- The back-ticks of an update without raw text stand around the columns it assigns. -/
theorem Update.quoted_spell {s : Update} (silent : s.filter.rawTexts = []) :
    Quoted (s.assignments.map (·.column)) (spell style bound s.draft.symbols) := by
  have clause : Symbol.Bare (whereDraft none s.filter).symbols :=
    within_whereDraft none (within_of_silent silent)
  let lead := ofText "UPDATE " ++ ofText s.table.name.text ++ ofText " " ++
    ofText s.table.aliasName.text ++ ofText " SET "
  have before : Symbol.Bare lead := by simp +decide [Symbol.Bare, lead]
  have assignments : Quoted (s.assignments.map (·.column)) (spell style bound
      ((Draft.separated ", " Assignment.draft s.assignments).symbols ++
        (whereDraft none s.filter).symbols)) := Assignment.quoted_spell s.assignments clause
  have shape := assignments.prepend (before.tick_not_mem_spell : '`' ∉ spell style bound lead)
  simpa [draft, lead, Symbol.spell_append] using shape

end Rows

namespace Statement

/-- The columns a statement writes in back-ticks: those an update assigns. -/
def assigned : Statement → List ColumnName
  | update s => s.assignments.map (·.column)
  | _ => []

/-- The back-ticks of a statement without raw text stand around the columns it assigns. -/
theorem quoted_spell {s : Statement} (silent : s.rawTexts = []) (style : PlaceholderStyle) :
    Quoted s.assigned (spell style 0 s.draft.symbols) := by
  cases s with
  | select s =>
    obtain ⟨filter, joins⟩ := List.append_eq_nil_iff.1 silent
    have each : ∀ join ∈ s.joins, join.condition.rawTexts = [] := by
      simpa using joins
    have bare : Symbol.Bare s.draft.symbols :=
      Select.within_draft (within_of_silent filter) fun join member =>
        within_of_silent (each join member)
    exact .none bare.tick_not_mem_spell
  | insert s =>
    have bare : Symbol.Bare s.draft.symbols := s.within_draft
    exact .none bare.tick_not_mem_spell
  | update s => exact Update.quoted_spell silent
  | delete s =>
    have bare : Symbol.Bare s.draft.symbols := Delete.within_draft (within_of_silent silent)
    exact .none bare.tick_not_mem_spell

/-- A statement without raw text is finished to a safe text, in either style. -/
theorem safe_bake {s : Statement} {finished : Draft} (silent : s.rawTexts = [])
    (assembled : s.assemble = .ok finished) (style : PlaceholderStyle) :
    Safe s.assigned (finished.bake style).text := by
  have written : (finished.bake style).text.toList = spell style 0 s.draft.symbols := by
    rw [Draft.toList_text_bake, eq_canonical_of_assemble assembled, Draft.symbols_canonical]
  have within : Within (fun c => c = '`') s.draft.symbols :=
    within_draft (by rfl) (within_of_silent silent)
  have quoted := quoted_spell silent style
  rw [← written] at quoted
  refine ⟨fun c member => ?_, quoted.count, quoted⟩
  rw [written] at member
  exact within.lexical_of_mem_spell member

end Statement

/-- The columns a request has written in back-ticks: those an update assigns. -/
def Request.Assigns {E : Type} (tables : List (TableDefinition E)) (names : List ColumnName) :
    Request E → Prop
  | .update _ _ entity => ∃ definition ∈ tables,
    names.map (·.text) = definition.columnsOf entity ++ ["modified_at"]
  | _ => names = []

/-- A statement of the kind that a request asks for assigns the columns that the request says. -/
theorem Request.AsksFor.assigns {E : Type} {tables : List (TableDefinition E)}
    {request : Request E} {s : Statement} (asks : request.AsksFor tables s) :
    request.Assigns tables s.assigned := by
  cases request with
  | plain request => cases request <;> cases s <;> first | rfl | exact asks.elim
  | condition target column comparison operand => exact asks.elim
  | join target table aliasName plan kind cardinality => exact asks.elim
  | getById source id excluded => cases s <;> first | rfl | exact asks.elim
  | insert target now entity => cases s <;> first | rfl | exact asks.elim
  | update target now entity =>
    cases s with
    | update s =>
      obtain ⟨definition, known, columns⟩ := asks
      exact ⟨definition, known, by simpa [Statement.assigned, Function.comp_def] using columns⟩
    | select s => exact asks.elim
    | insert s => exact asks.elim
    | delete s => exact asks.elim

/-- Every query that a program gets without raw text is safe. -/
theorem World.safe_of_mem_run {E : Type} {tables : List (TableDefinition E)}
    {requests : List (Request E)} (silent : ∀ request ∈ requests, request.rawTexts = [])
    {request : Request E} {answer : Answer} {query : Query}
    (asked : (request, answer) ∈ requests.zip (run tables {} requests))
    (answered : answer.result = .ok (some query)) :
    ∃ names, request.Assigns tables names ∧ Safe names query.text := by
  have brings : ∀ request ∈ requests, request.Brings (.texts fun _ => False) := by
    intro request member
    exact Request.brings_texts (by simp [silent request member])
  obtain ⟨before, kept, rfl⟩ := kept_of_mem_run (kept_empty _ tables) brings asked
  obtain ⟨s, built, ⟨finished, style, assembled, rfl⟩, asks⟩ := statement_of_step kept answered
  have none : s.rawTexts = [] := List.eq_nil_iff_forall_not_mem.2 built.rawTexts
  exact ⟨s.assigned, asks.assigns, s.safe_bake none assembled style⟩

/-- Finished statements are safe. Whatever names and values are supplied, a statement that can be
assembled without raw text is finished, in both styles, to a text of the characters of statements,
with two back-ticks for each assignment, directly around the column; and so is every query that a
program gets if no join it adds is on raw text. -/
theorem Statement.safe_texts :
    (∀ c, lexical c = true → ' ' ≤ c ∧ c ≤ '~' ∧
      c ∉ ['\'', '"', ';', '\\', '-', '/', '*', '#']) ∧
    (∀ (s : Statement) (finished : Draft) (style : PlaceholderStyle), s.rawTexts = [] →
      s.assemble = .ok finished → Safe s.assigned (finished.bake style).text) ∧
    (∀ (E : Type) (tables : List (TableDefinition E)) (requests : List (Request E)),
      (∀ request ∈ requests, request.rawTexts = []) →
      ∀ request answer query, (request, answer) ∈ requests.zip (World.run tables {} requests) →
        answer.result = .ok (some query) →
        ∃ names, request.Assigns tables names ∧ Safe names query.text) := by
  refine ⟨fun c => printable_of_lexical, ?_, ?_⟩
  · intro s finished style silent assembled
    exact s.safe_bake silent assembled style
  · intro E tables requests silent request answer query asked answered
    exact World.safe_of_mem_run silent asked answered

namespace Sample

/-- People of a name get another one. -/
def relabel (name : String) (now : Instant) : List (Request (Option String)) :=
  [.plain (.newGateway 0 "u" default),
   .condition (.kept (.single 0)) "name" .equal (.single (.text name)),
   .update (.single 0) now (some "Eve")]

/-- The update that gives people of a name another one. -/
def relabelQuery (name : String) (now : Instant) : Query :=
  { text := "UPDATE users u SET u.`name` = ?, u.`modified_at` = ? WHERE (( u.name = ? ))"
    params := [.text "Eve", .instant now, .text name] }

end Sample

/-- A dangerous name is no part of the text, which quotes the two columns that are assigned. -/
theorem Statement.safe_texts_relabel :
    (∀ request ∈ Sample.relabel "' OR 1=1; --" ⟨0, 0⟩, request.rawTexts = []) ∧
    ∃ answer : Answer,
      (.update (.single 0) ⟨0, 0⟩ (some "Eve"), answer) ∈ (Sample.relabel "' OR 1=1; --" ⟨0, 0⟩).zip
        (World.run [Sample.people] {} (Sample.relabel "' OR 1=1; --" ⟨0, 0⟩)) ∧
      answer.result = .ok (some (Sample.relabelQuery "' OR 1=1; --" ⟨0, 0⟩)) ∧
      ∃ names, names.map (·.text) = ["name", "modified_at"] ∧
        Safe names (Sample.relabelQuery "' OR 1=1; --" ⟨0, 0⟩).text := by
  have silent : ∀ request ∈ Sample.relabel "' OR 1=1; --" ⟨0, 0⟩, request.rawTexts = [] := by
    simp [Sample.relabel, Request.rawTexts]
  have third :
      (World.run [Sample.people] {} (Sample.relabel "' OR 1=1; --" ⟨0, 0⟩))[2]?.map (·.result) =
        some (.ok (some (Sample.relabelQuery "' OR 1=1; --" ⟨0, 0⟩))) := by decide +kernel
  obtain ⟨answer, found, answered⟩ := Option.map_eq_some_iff.1 third
  have paired : ((Sample.relabel "' OR 1=1; --" ⟨0, 0⟩).zip
      (World.run [Sample.people] {} (Sample.relabel "' OR 1=1; --" ⟨0, 0⟩)))[2]? =
        some (.update (.single 0) ⟨0, 0⟩ (some "Eve"), answer) :=
    List.getElem?_zip_eq_some.2 ⟨rfl, found⟩
  have asked := List.mem_of_getElem? paired
  obtain ⟨names, ⟨definition, known, columns⟩, safe⟩ :=
    safe_texts.2.2 _ [Sample.people] _ silent _ answer _ asked answered
  refine ⟨silent, answer, asked, answered, names, ?_, safe⟩
  rw [columns, List.mem_singleton.1 known]
  rfl

end BoundSql
