import BoundSql.Draft.Writer
import BoundSql.Proofs.CanonicalDrafts

/-!
# Runs of writers

What a writer has written after any calls. A call emits a row of symbols, whatever stands before it:
the row comes behind the symbols that are there, and a canonical draft stays canonical
(`Draft.Emits`). From the two operations that write a piece this goes over to separated rows, to
calls within calls and to whole runs. Since canonical drafts are determined by what they emit, so is
what a run has written (`WriterCall.written_exact`), and it is the canonical form of the draft that
is composed of the same parts.
-/

namespace BoundSql

namespace Symbol

/-- Rows with a separator between neighbours: every row but the first has the separator before
it. -/
theorem intercalate_cons (separator first : List Symbol) (rows : List (List Symbol)) :
    separator.intercalate (first :: rows) = first ++ rows.flatMap (separator ++ ·) := by
  induction rows generalizing first with
  | nil => simp
  | cons row rest ih => rw [List.intercalate_cons_cons, ih]; simp

/-- Separators that are texts hold no values. -/
theorem values_intercalate (separator : String) (rows : List (List Symbol)) :
    values ((ofText separator).intercalate rows) = rows.flatMap values := by
  cases rows with
  | nil => rfl
  | cons first rows =>
    rw [intercalate_cons, values_append, List.flatMap_cons]
    congr 1
    induction rows with
    | nil => rfl
    | cons row rest ih => simp [ih]

end Symbol

namespace Draft

/-- A change of drafts emits a row of symbols: the row comes behind the symbols that are there, and
a canonical draft stays canonical. -/
structure Emits (change : Draft → Draft) (row : List Symbol) : Prop where
  /-- The row comes behind what is there. -/
  symbols : ∀ written, (change written).symbols = written.symbols ++ row
  /-- Canonical drafts stay canonical. -/
  canonical : ∀ {written}, Canonical written → Canonical (change written)

/-- Without a change nothing is emitted. -/
theorem emits_nothing : Emits (fun written => written) [] := ⟨by simp, id⟩

/-- What is written first is emitted first. -/
theorem Emits.andThen {first second : Draft → Draft} {row more : List Symbol}
    (before : Emits first row) (behind : Emits second more) :
    Emits (fun written => second (first written)) (row ++ more) where
  symbols written := by rw [behind.symbols, before.symbols, List.append_assoc]
  canonical canonical := behind.canonical (before.canonical canonical)

/-- A text emits its characters. -/
theorem emits_pushText (s : String) : Emits (pushText s) (Symbol.ofText s) := by
  by_cases vacant : s = ""
  · rw [vacant]
    exact emits_nothing
  refine ⟨fun written => ?_, fun {written} canonical => ?_⟩
  · rcases last_cases written with ⟨front, t, rfl⟩ | other
    · rw [pushText_text, symbols_append, symbols_append, symbols_text, symbols_text,
        Symbol.ofText_append, List.append_assoc]
    · rw [pushText_apart vacant other, symbols_append, symbols_text]
  · rcases last_cases written with ⟨front, t, rfl⟩ | other
    · obtain ⟨before, _, between⟩ := canonical_append.1 canonical
      rw [pushText_text]
      refine canonical_append.2 ⟨before, canonical_text.2 (by simp [vacant]), ?_⟩
      simpa [text, Fragment.isText] using between
    · rw [pushText_apart vacant other]
      refine canonical_append.2 ⟨canonical, canonical_text.2 vacant, fun left last _ _ => ?_⟩
      cases left with
      | text t => exact absurd last (other t)
      | param v => rfl

/-- A value emits itself. -/
theorem emits_pushParam (v : Value) : Emits (pushParam v) [.value v] := by
  refine ⟨fun written => by simp [pushParam], fun canonical => ?_⟩
  refine canonical_append.2 ⟨canonical, canonical_param v, fun left _ right first => ?_⟩
  cases first
  simp [Fragment.isText]

section Separated

variable {α : Type} {write : α → Draft → Draft} {items : List α} {rows : List (List Symbol)}
  {separator : String}

/-- Behind other items, every item emits the separator and its row. -/
theorem emits_pushItem_behind
    (each : List.Forall₂ (fun item row => Emits (write item) row) items rows) (before : Nat) :
    Emits (fun written => (items.zipIdx (before + 1)).foldl (pushItem separator write) written)
      (rows.flatMap (Symbol.ofText separator ++ ·)) := by
  induction each generalizing before with
  | nil => exact emits_nothing
  | @cons item row rest more first _ ih =>
    have step written : pushItem separator write written (item, before + 1) =
        write item (written.pushText separator) := by simp [pushItem]
    simp only [List.zipIdx_cons, List.foldl_cons, step, List.flatMap_cons]
    exact ((emits_pushText separator).andThen first).andThen (ih (before + 1))

/-- Items emit their rows, with the separator between neighbours. -/
theorem emits_pushSeparated
    (each : List.Forall₂ (fun item row => Emits (write item) row) items rows) :
    Emits (pushSeparated separator write items) ((Symbol.ofText separator).intercalate rows) := by
  cases each with
  | nil => exact emits_nothing
  | cons first rest =>
    rw [Symbol.intercalate_cons]
    exact first.andThen (emits_pushItem_behind rest 0)

end Separated

/-- A separated row emits its items, with the separator between neighbours. -/
theorem symbols_separated {α : Type} (separator : String) (write : α → Draft) (items : List α) :
    symbols (separated separator write items) =
      (Symbol.ofText separator).intercalate (items.map fun item => symbols (write item)) := by
  induction items with
  | nil => rfl
  | cons item rest ih =>
    cases rest with
    | nil => simp [separated]
    | cons next more =>
      have row : separated separator write (item :: next :: more) =
          write item ++ text separator ++ separated separator write (next :: more) := rfl
      rw [row, symbols_append, symbols_append, symbols_text, ih]
      simp only [List.map_cons, List.intercalate_cons_cons]

end Draft

namespace WriterCall

mutual

/-- What a call emits. -/
def emitted : WriterCall → List Symbol
  | .text s => Symbol.ofText s
  | .param v => [.value v]
  | .separated separator items => (Symbol.ofText separator).intercalate (emittedEach items)

/-- What calls emit, one after the other. -/
def emittedAll : List WriterCall → List Symbol
  | [] => []
  | call :: rest => call.emitted ++ emittedAll rest

/-- For every item, what its calls emit. -/
def emittedEach : List (List WriterCall) → List (List Symbol)
  | [] => []
  | calls :: rest => emittedAll calls :: emittedEach rest

end

mutual

/-- The values that a call hands over, in the order of the calls. -/
def values : WriterCall → List Value
  | .text _ => []
  | .param v => [v]
  | .separated _ items => valuesEach items

/-- The values that calls hand over, in their order. -/
def valuesAll : List WriterCall → List Value
  | [] => []
  | call :: rest => call.values ++ valuesAll rest

/-- The values that the calls of items hand over, in their order. -/
def valuesEach : List (List WriterCall) → List Value
  | [] => []
  | calls :: rest => valuesAll calls ++ valuesEach rest

end

mutual

/-- The draft that is composed of the parts of a call. -/
def draft : WriterCall → Draft
  | .text s => Draft.text s
  | .param v => Draft.param v
  | .separated separator items => Draft.separated separator (fun item => item) (draftEach items)

/-- The draft that is composed of the parts of calls. -/
def draftAll : List WriterCall → Draft
  | [] => []
  | call :: rest => call.draft ++ draftAll rest

/-- For every item, the draft that is composed of the parts of its calls. -/
def draftEach : List (List WriterCall) → List Draft
  | [] => []
  | calls :: rest => draftAll calls :: draftEach rest

end

mutual

/-- A call writes what it emits. -/
theorem emits_perform : (call : WriterCall) → Draft.Emits call.perform call.emitted
  | .text s => Draft.emits_pushText s
  | .param v => Draft.emits_pushParam v
  | .separated _ items => Draft.emits_pushSeparated (emits_performEach items)

/-- Calls write what they emit. -/
theorem emits_performAll : (calls : List WriterCall) →
    Draft.Emits (performAll calls) (emittedAll calls)
  | [] => Draft.emits_nothing
  | call :: rest => (emits_perform call).andThen (emits_performAll rest)

/-- The calls of every item write what they emit. -/
theorem emits_performEach : (items : List (List WriterCall)) →
    List.Forall₂ Draft.Emits (performEach items) (emittedEach items)
  | [] => .nil
  | calls :: rest => .cons (emits_performAll calls) (emits_performEach rest)

end

mutual

/-- A composed draft emits what its call emits. -/
theorem symbols_draft : (call : WriterCall) → call.draft.symbols = call.emitted
  | .text s => Draft.symbols_text s
  | .param v => Draft.symbols_param v
  | .separated separator items => by
    rw [draft, Draft.symbols_separated, symbols_draftEach, emitted]

/-- A composed draft emits what its calls emit. -/
theorem symbols_draftAll : (calls : List WriterCall) →
    (draftAll calls).symbols = emittedAll calls
  | [] => rfl
  | call :: rest => by
    rw [draftAll, Draft.symbols_append, symbols_draft call, symbols_draftAll rest, emittedAll]

/-- The composed drafts of items emit what their calls emit. -/
theorem symbols_draftEach : (items : List (List WriterCall)) →
    (draftEach items).map Draft.symbols = emittedEach items
  | [] => rfl
  | calls :: rest => by
    rw [draftEach, List.map_cons, symbols_draftAll calls, symbols_draftEach rest, emittedEach]

end

mutual

/-- The values that a call hands over are those it emits. -/
theorem values_emitted : (call : WriterCall) → Symbol.values call.emitted = call.values
  | .text s => Symbol.values_ofText s
  | .param _ => rfl
  | .separated separator items => by
    rw [emitted, Symbol.values_intercalate, values_emittedEach, values]

/-- The values that calls hand over are those they emit. -/
theorem values_emittedAll : (calls : List WriterCall) →
    Symbol.values (emittedAll calls) = valuesAll calls
  | [] => rfl
  | call :: rest => by
    rw [emittedAll, Symbol.values_append, values_emitted call, values_emittedAll rest, valuesAll]

/-- The values that the calls of items hand over are those they emit. -/
theorem values_emittedEach : (items : List (List WriterCall)) →
    (emittedEach items).flatMap Symbol.values = valuesEach items
  | [] => rfl
  | calls :: rest => by
    rw [emittedEach, List.flatMap_cons, values_emittedAll calls, values_emittedEach rest,
      valuesEach]

end

/-- What calls write is canonical. -/
theorem canonical_written (calls : List WriterCall) : (written calls).Canonical :=
  (emits_performAll calls).canonical Draft.canonical_nil

/-- Calls write what they emit, and nothing else. -/
theorem symbols_written (calls : List WriterCall) :
    (written calls).symbols = emittedAll calls := by
  rw [written, (emits_performAll calls).symbols, Draft.symbols_nil, List.nil_append]

/-- What calls write is the canonical form of the draft composed of their parts. -/
theorem written_eq_canonical (calls : List WriterCall) :
    written calls = (draftAll calls).canonical := by
  rw [(canonical_written calls).eq_iff (Draft.canonical_canonical _), symbols_written,
    Draft.symbols_canonical, symbols_draftAll]

/-- The values in what calls write are those they hand over, in the order of the calls. -/
theorem values_written (calls : List WriterCall) : (written calls).values = valuesAll calls := by
  rw [← Draft.values_symbols, symbols_written, values_emittedAll]

/-- What calls write has neither empty texts nor neighbouring texts, and it is determined by what
the calls emit: it is the same for two runs exactly if they emit the same characters and values, and
agrees in all its pieces exactly if the values agree where they stand. It is the canonical form of
the draft composed of the parts of the calls, binds a value for every value that is handed over, and
is finished to the characters that are emitted, with placeholders for the values. -/
theorem written_exact (calls : List WriterCall) :
    (written calls).Canonical ∧
    written calls = (draftAll calls).canonical ∧
    (∀ others, written calls = written others ↔ emittedAll calls = emittedAll others) ∧
    (∀ others, (written calls).Alike (fun v w => v.agrees w) (written others) ↔
      List.Forall₂ (Symbol.Alike fun v w => v.agrees w) (emittedAll calls) (emittedAll others)) ∧
    (written calls).paramCount = (valuesAll calls).length ∧
    ∀ style, (written calls).bake style =
      { text := String.ofList (Symbol.spell style 0 (emittedAll calls))
        params := valuesAll calls } := by
  have canonical := canonical_written calls
  refine ⟨canonical, written_eq_canonical calls, fun others => ?_, fun others => ?_, ?_,
    fun style => ?_⟩
  · rw [canonical.eq_iff (canonical_written others), symbols_written, symbols_written]
  · rw [canonical.alike_iff (canonical_written others), symbols_written, symbols_written]
  · rw [Draft.paramCount, values_written]
  · have text : ((written calls).bake style).text =
        String.ofList (Symbol.spell style 0 (emittedAll calls)) := by
      rw [← symbols_written, ← Draft.toList_text_bake, String.ofList_toList]
    rw [← text, ← values_written]
    rfl

/-- Texts are joined with those before them, whichever calls write them. -/
example : written [.text "IN (", .text "", .separated ", " [], .param .null,
      .separated ", " [[.text "1"], [], [.separated "." [[.text "a"], [.text "b"]]]], .text ")"] =
    [.text "IN (", .param .null, .text "1, , a.b)"] := by decide +kernel

end WriterCall

end BoundSql
