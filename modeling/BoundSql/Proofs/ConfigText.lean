import BoundSql.Proofs.Sections
import BoundSql.Config.Toml

/-!
# Configurations read back

The text of a configuration file is read as the configuration it was written from, and every choice
of its key lines as the configuration that has the defaults elsewhere (`Config.ofToml_written`). A
section without key lines may be there or not, sections and keys may stand in either order, and
blank lines and indentation do not count. The check comes behind the defaults: a threshold of zero
is refused whatever else is written.
-/

namespace BoundSql.Config

open Toml

/-- Two things that may be missing stand beside each other, in either order. -/
def Beside {α : Type} (first second : Option α) (whole : List α) : Prop :=
  whole = first.toList ++ second.toList ∨ whole = second.toList ++ first.toList

/-- A configuration of which some values are left out. -/
structure Written where
  /-- The placeholder style, if it is written. -/
  style : Option PlaceholderStyle
  /-- The warning threshold, if it is written. -/
  warning : Option Nat
  /-- Whether joins are reported, if it is written. -/
  reportsJoins : Option Bool
deriving DecidableEq, Repr

/-- The line of the placeholder style. -/
def styleLine (style : PlaceholderStyle) : String :=
  keyLine "placeholder_style" ("\"" ++ styleName style ++ "\"")

/-- The line of the warning threshold. -/
def warningLine (warning : Nat) : String := keyLine "one_to_many_join_warning" (toString warning)

/-- The line of whether joins are reported. -/
def reportsLine (reportsJoins : Bool) : String :=
  keyLine "log_join_summary" (Json.boolean reportsJoins)

/-- The lines of a section with at most two key lines: these stand below its header, and without
any the section may be left out. -/
def IsSectionOf (name : String) (first second : Option String) (lines : Option (List String)) :
    Prop :=
  (∃ keys, Beside first second keys ∧ lines = some (headerLine name :: keys)) ∨
    first = none ∧ second = none ∧ lines = none

namespace Written

/-- The configuration with the defaults for what is left out. -/
def completed (written : Written) : Config where
  query := ⟨written.style.getD (default : QueryConfig).style⟩
  diagnostics :=
    { warning := written.warning.getD (default : DiagnosticsConfig).warning
      reportsJoins := written.reportsJoins.getD (default : DiagnosticsConfig).reportsJoins }

/-- A text consists of the sections with the written keys, and of blank lines. -/
def IsIn (written : Written) (text : String) : Prop :=
  ∃ query diagnostics sections,
    IsSectionOf "query" (written.style.map styleLine) none query ∧
    IsSectionOf "diagnostics" (written.warning.map warningLine)
      (written.reportsJoins.map reportsLine) diagnostics ∧
    Beside query diagnostics sections ∧
    writtenLines text.toList = sections.flatten.map String.toList

end Written

/-! ## Two things beside each other -/

namespace Beside

variable {α β : Type} {first second : Option α} {whole : List α}

theorem symm (beside : Beside first second whole) : Beside second first whole := Or.symm beside

/-- Nothing else stands there. -/
theorem mem_iff (beside : Beside first second whole) {x : α} :
    x ∈ whole ↔ x ∈ first ∨ x ∈ second := by
  rcases beside with rfl | rfl
  · rw [List.mem_append, Option.mem_toList, Option.mem_toList]
    rfl
  · rw [List.mem_append, Option.mem_toList, Option.mem_toList, or_comm]
    rfl

/-- What is made of two things stands beside each other as they do. -/
theorem map (f : α → β) (beside : Beside first second whole) :
    Beside (first.map f) (second.map f) (whole.map f) := by
  rcases beside with rfl | rfl
  · exact .inl (by rw [List.map_append, Option.toList_map, Option.toList_map])
  · exact .inr (by rw [List.map_append, Option.toList_map, Option.toList_map])

/-- And they stand as what is made of them does. -/
theorem exists_map {f : α → β} {image : List β}
    (beside : Beside (first.map f) (second.map f) image) :
    ∃ whole, Beside first second whole ∧ image = whole.map f := by
  rcases beside with rfl | rfl
  · exact ⟨_, .inl rfl, by rw [List.map_append, Option.toList_map, Option.toList_map]⟩
  · exact ⟨_, .inr rfl, by rw [List.map_append, Option.toList_map, Option.toList_map]⟩

/-- Two different things are no repetition. -/
theorem nodup (beside : Beside first second whole)
    (apart : ∀ x ∈ first, ∀ y ∈ second, x ≠ y) : whole.Nodup := by
  have single : ∀ one : Option α, one.toList.Nodup := by
    intro one
    cases one <;> simp
  rcases beside with rfl | rfl
  · refine List.nodup_append.2 ⟨single _, single _, fun x here y there => ?_⟩
    exact apart x (Option.mem_toList.1 here) y (Option.mem_toList.1 there)
  · refine List.nodup_append.2 ⟨single _, single _, fun y there x here => ?_⟩
    exact (apart x (Option.mem_toList.1 here) y (Option.mem_toList.1 there)).symm

/-- An entry is found under its key beside another one of another key. -/
theorem lookup {value : Option α} {node : α → Node} {other : Option (String × Node)}
    {key : String} {entries : Entries}
    (beside : Beside (value.map fun content => (key, node content)) other entries)
    (apart : ∀ entry ∈ other, entry.1 ≠ key) : entries.lookup key = value.map node := by
  have here : (value.map fun content => (key, node content)).toList.lookup key =
      value.map node := by
    cases value <;> simp
  have elsewhere : other.toList.lookup key = none := by
    refine List.lookup_eq_none_iff.2 fun entry member => bne_iff_ne.2 (Ne.symm ?_)
    exact apart entry (Option.mem_toList.1 member)
  rcases beside with rfl | rfl
  · rw [List.lookup_append, here, elsewhere, Option.or_none]
  · rw [List.lookup_append, here, elsewhere, Option.none_or]

end Beside

/-! ## Assignments -/

/-- The assignment of the placeholder style. -/
def styleAssigned (style : PlaceholderStyle) : Assigned where
  key := "placeholder_style"
  word := "\"" ++ styleName style ++ "\""
  node := .string (styleName style)
  bare := by decide
  reads := by
    have content : (styleName style).toList.all inBasic = true := by cases style <;> decide
    have read := standsFor_basic (List.all_eq_true.1 content)
    rw [String.ofList_toList] at read
    rw [String.toList_append, String.toList_append]
    exact read

/-- The assignment of the warning threshold. -/
def warningAssigned (warning : Nat) : Assigned where
  key := "one_to_many_join_warning"
  word := toString warning
  node := Scalar.integerNode warning
  bare := by decide
  reads := standsFor_digits warning

/-- The assignment of whether joins are reported. -/
def reportsAssigned (reportsJoins : Bool) : Assigned where
  key := "log_join_summary"
  word := Json.boolean reportsJoins
  node := .boolean reportsJoins
  bare := by decide
  reads := standsFor_scalar (by cases reportsJoins <;> decide)
    (List.all_eq_true.1 (by cases reportsJoins <;> decide)) (by cases reportsJoins <;> rfl)

/-! ## Sections -/

/-- The lines of a section are those of at most one section of a document, which contains what is
assigned in it. -/
theorem exists_section {name : String} (bare : IsBareKey name) {first second : Option Assigned}
    (apart : ∀ a ∈ first, ∀ b ∈ second, a.key ≠ b.key) {lines : Option (List String)}
    (isSection : IsSectionOf name (first.map Assigned.line) (second.map Assigned.line) lines) :
    ∃ part : Option Section, lines = part.map Section.lines ∧
      (∀ found ∈ part, found.name = name) ∧
      Beside (first.map Assigned.entry) (second.map Assigned.entry)
        (part.elim [] Section.entries) := by
  rcases isSection with ⟨keys, beside, rfl⟩ | ⟨missing, absent, rfl⟩
  · obtain ⟨assigned, order, rfl⟩ := beside.exists_map
    have distinct : (assigned.map Assigned.key).Nodup := by
      refine (order.map Assigned.key).nodup fun x here y there => ?_
      obtain ⟨a, inFirst, rfl⟩ := Option.map_eq_some_iff.1 here
      obtain ⟨b, inSecond, rfl⟩ := Option.map_eq_some_iff.1 there
      exact apart a inFirst b inSecond
    refine ⟨some ⟨name, assigned, bare, distinct⟩, rfl, fun found same => ?_,
      order.map Assigned.entry⟩
    obtain rfl := Option.some.inj same
    rfl
  · rw [Option.map_eq_none_iff] at missing absent
    subst missing absent
    exact ⟨none, rfl, nofun, .inl rfl⟩

section TwoSections

variable {parts : List Section} {first second : Option Section} {name other : String}

/-- Two sections of different names have no name twice. -/
theorem distinct_sections (order : Beside first second parts) (apart : name ≠ other)
    (named : ∀ found ∈ first, found.name = name)
    (otherwise : ∀ found ∈ second, found.name = other) : (parts.map Section.name).Nodup := by
  refine (order.map Section.name).nodup fun x here y there => ?_
  obtain ⟨found, inFirst, rfl⟩ := Option.map_eq_some_iff.1 here
  obtain ⟨also, inSecond, rfl⟩ := Option.map_eq_some_iff.1 there
  rw [named found inFirst, otherwise also inSecond]
  exact apart

/-- They have these names only. -/
theorem mem_sections (order : Beside first second parts)
    (named : ∀ found ∈ first, found.name = name)
    (otherwise : ∀ found ∈ second, found.name = other) :
    ∀ entry ∈ parts.map Section.entry, entry.1 ∈ [name, other] := by
  intro entry member
  obtain ⟨part, inside, rfl⟩ := List.mem_map.1 member
  rcases order.mem_iff.1 inside with here | there
  · simp [Section.entry, named part here]
  · simp [Section.entry, otherwise part there]

/-- They are found under their names. -/
theorem lookup_sections (order : Beside first second parts) (apart : name ≠ other)
    (named : ∀ found ∈ first, found.name = name)
    (otherwise : ∀ found ∈ second, found.name = other) :
    (parts.map Section.entry).lookup name =
      first.map fun found => .table .header found.entries := by
  have entries : first.map Section.entry =
      first.map fun found => (name, Node.table .header found.entries) := by
    refine Option.map_congr fun found here => ?_
    rw [Section.entry, named found here]
  have elsewhere : ∀ entry ∈ second.map Section.entry, entry.1 ≠ name := by
    intro entry member
    obtain ⟨found, there, rfl⟩ := Option.map_eq_some_iff.1 member
    exact fun same => apart (same.symm.trans (otherwise found there))
  have beside := order.map Section.entry
  rw [entries] at beside
  exact beside.lookup elsewhere

end TwoSections

/-- A table with known keys only is read. -/
theorem known?_eq {keys : List String} {entries : Entries}
    (known : ∀ entry ∈ entries, entry.1 ∈ keys) : known? keys entries = some entries := by
  rw [known?, if_pos]
  rw [List.all_eq_true]
  intro entry member
  simp [known entry member]

/-- The fields of a section of a document. -/
theorem fieldsOf?_eq {root : Entries} {name : String} {keys : List String} {part : Option Section}
    (found : root.lookup name = part.map fun found => .table .header found.entries)
    (known : ∀ entry ∈ part.elim [] Section.entries, entry.1 ∈ keys) :
    fieldsOf? root name keys = some (part.elim [] Section.entries) := by
  cases part with
  | none => rw [fieldsOf?, found]; rfl
  | some part =>
    rw [fieldsOf?, found, Option.map_some]
    exact known?_eq known

/-- A field is read from its entry, or has its default. -/
theorem field?_eq {α : Type} {read : Node → Option α} {otherwise : α} {entries : Entries}
    {key : String} {value : Option α} {node : α → Node}
    (found : entries.lookup key = value.map node)
    (reads : ∀ content ∈ value, read (node content) = some content) :
    field? read otherwise entries key = some (value.getD otherwise) := by
  cases value with
  | none => rw [field?, found]; rfl
  | some content => rw [field?, found]; exact reads content rfl

namespace Written

variable {written : Written} {lines : Option (List String)}

/-- The section of queries contains the style, and nothing else. -/
theorem exists_query (isSection : IsSectionOf "query" (written.style.map styleLine) none lines) :
    ∃ part : Option Section, lines = part.map Section.lines ∧
      (∀ found ∈ part, found.name = "query") ∧
      (∀ entry ∈ part.elim [] Section.entries, entry.1 ∈ ["placeholder_style"]) ∧
      (part.elim [] Section.entries).lookup "placeholder_style" =
        written.style.map fun style => .string (styleName style) := by
  have assigned : IsSectionOf "query" ((written.style.map styleAssigned).map Assigned.line)
      ((none : Option Assigned).map Assigned.line) lines := by
    rw [Option.map_map]
    exact isSection
  have apart : ∀ a ∈ written.style.map styleAssigned, ∀ b ∈ (none : Option Assigned),
      a.key ≠ b.key := by
    intro a _ b absent
    cases absent
  obtain ⟨part, shape, named, fields⟩ := exists_section (by decide) apart assigned
  have beside : Beside
      (written.style.map fun style => ("placeholder_style", Node.string (styleName style))) none
      (part.elim [] Section.entries) := by
    rw [Option.map_map] at fields
    exact fields
  refine ⟨part, shape, named, fun entry member => ?_, beside.lookup nofun⟩
  rcases beside.mem_iff.1 member with here | there
  · obtain ⟨style, -, rfl⟩ := Option.map_eq_some_iff.1 here
    exact List.mem_cons_self
  · cases there

/-- The section of diagnostics contains the threshold and whether joins are reported, and nothing
else. -/
theorem exists_diagnostics (isSection : IsSectionOf "diagnostics" (written.warning.map warningLine)
      (written.reportsJoins.map reportsLine) lines) :
    ∃ part : Option Section, lines = part.map Section.lines ∧
      (∀ found ∈ part, found.name = "diagnostics") ∧
      (∀ entry ∈ part.elim [] Section.entries,
        entry.1 ∈ ["one_to_many_join_warning", "log_join_summary"]) ∧
      (part.elim [] Section.entries).lookup "one_to_many_join_warning" =
        (written.warning.map fun (warning : Nat) => Scalar.integerNode warning) ∧
      (part.elim [] Section.entries).lookup "log_join_summary" =
        written.reportsJoins.map .boolean := by
  have assigned : IsSectionOf "diagnostics"
      ((written.warning.map warningAssigned).map Assigned.line)
      ((written.reportsJoins.map reportsAssigned).map Assigned.line) lines := by
    rw [Option.map_map, Option.map_map]
    exact isSection
  have keys : "one_to_many_join_warning" ≠ "log_join_summary" := by decide
  have apart : ∀ a ∈ written.warning.map warningAssigned,
      ∀ b ∈ written.reportsJoins.map reportsAssigned, a.key ≠ b.key := by
    intro a here b there
    obtain ⟨warning, -, rfl⟩ := Option.map_eq_some_iff.1 here
    obtain ⟨reports, -, rfl⟩ := Option.map_eq_some_iff.1 there
    exact keys
  obtain ⟨part, shape, named, fields⟩ := exists_section (by decide) apart assigned
  have beside : Beside
      (written.warning.map fun (warning : Nat) =>
        ("one_to_many_join_warning", Scalar.integerNode warning))
      (written.reportsJoins.map fun reports => ("log_join_summary", Node.boolean reports))
      (part.elim [] Section.entries) := by
    have entry : Assigned.entry ∘ warningAssigned = fun (warning : Nat) =>
        ("one_to_many_join_warning", Scalar.integerNode warning) := by
      funext warning
      simp only [Function.comp_apply, Assigned.entry, warningAssigned]
    rw [Option.map_map, Option.map_map, entry] at fields
    exact fields
  refine ⟨part, shape, named, fun entry member => ?_, beside.lookup fun entry there => ?_,
    beside.symm.lookup fun entry here => ?_⟩
  · rcases beside.mem_iff.1 member with here | there
    · obtain ⟨warning, -, rfl⟩ := Option.map_eq_some_iff.1 here
      exact List.mem_cons_self
    · obtain ⟨reports, -, rfl⟩ := Option.map_eq_some_iff.1 there
      exact List.mem_cons_of_mem _ List.mem_cons_self
  · obtain ⟨reports, -, rfl⟩ := Option.map_eq_some_iff.1 there
    exact keys.symm
  · obtain ⟨warning, -, rfl⟩ := Option.map_eq_some_iff.1 here
    exact keys

end Written

/-- A number of at most 64 bits is a count. -/
theorem count?_integerNode {n : Nat} (fits : n < Nat.pow 2 64) :
    count? (Scalar.integerNode n) = some n := by
  have wide : n < Nat.pow 2 128 := Nat.lt_trans fits (by decide)
  have upper : Int.pow 2 64 = Nat.pow 2 64 := rfl
  rw [integerNode_of_lt wide, count?, if_pos (by omega), Int.toNat_natCast]

/-- The configuration of a text is the written one, if it passes the check. -/
theorem ofToml_eq_checked {written : Written} {text : String} (isIn : written.IsIn text)
    (fits : ∀ warning ∈ written.warning, warning < Nat.pow 2 64) :
    ofToml text = written.completed.checked := by
  obtain ⟨queryLines, diagnosticsLines, sections, isQuery, isDiagnostics, order, lines⟩ := isIn
  obtain ⟨query, rfl, named, queryKeys, styleFound⟩ := Written.exists_query isQuery
  obtain ⟨diagnostics, rfl, otherwise, diagnosticsKeys, warningFound, reportsFound⟩ :=
    Written.exists_diagnostics isDiagnostics
  obtain ⟨parts, beside, rfl⟩ := order.exists_map
  have document : document? text = some (parts.map Section.entry) :=
    document?_of_sections (distinct_sections beside (by decide) named otherwise)
      (by rw [lines, List.flatMap_def])
  have root := known?_eq (mem_sections beside named otherwise)
  have queryRead :=
    fieldsOf?_eq (lookup_sections beside (by decide) named otherwise) queryKeys
  have diagnosticsRead :=
    fieldsOf?_eq (lookup_sections beside.symm (by decide) otherwise named) diagnosticsKeys
  have style : field? style? (default : QueryConfig).style _ "placeholder_style" =
      some written.completed.query.style :=
    field?_eq styleFound fun style _ => styleOfName?_styleName style
  have warning : field? count? (default : DiagnosticsConfig).warning _
      "one_to_many_join_warning" = some written.completed.diagnostics.warning :=
    field?_eq warningFound fun warning member => count?_integerNode (fits warning member)
  have reports : field? boolean? (default : DiagnosticsConfig).reportsJoins _
      "log_join_summary" = some written.completed.diagnostics.reportsJoins :=
    field?_eq reportsFound fun _ _ => rfl
  rw [ofToml, document, Option.bind_some, ofEntries?, root]
  simp only [Option.bind_eq_bind, Option.bind_some, queryRead, diagnosticsRead, style, warning,
    reports, pure]

/-! ## Files with all keys -/

/-- A configuration with all its values written. -/
def written (config : Config) : Written :=
  ⟨some config.query.style, some config.diagnostics.warning, some config.diagnostics.reportsJoins⟩

/-- The lines of a configuration file with all keys. -/
def allLines (config : Config) : List String :=
  [headerLine "query", styleLine config.query.style, "", headerLine "diagnostics",
    warningLine config.diagnostics.warning, reportsLine config.diagnostics.reportsJoins]

/-- Its text has these lines. -/
theorem toml_eq (config : Config) : config.toml = linesText config.allLines := by
  have layout : ∀ style warning reports : String,
      "[query]\nplaceholder_style = \"" ++ style ++
          "\"\n\n[diagnostics]\none_to_many_join_warning = " ++ warning ++
          "\nlog_join_summary = " ++ reports ++ "\n" =
        linesText [headerLine "query", keyLine "placeholder_style" ("\"" ++ style ++ "\""), "",
          headerLine "diagnostics", keyLine "one_to_many_join_warning" warning,
          keyLine "log_join_summary" reports] := by
    intro style warning reports
    apply String.toList_injective
    simp [linesText, keyLine, headerLine]
  unfold toml
  exact layout _ _ _

/-- They are lines of a document, but for the empty one between the sections. -/
theorem isLine_allLines (config : Config) :
    ∀ line ∈ config.allLines, line = "" ∨ IsLine line := by
  have style : IsLine (styleLine config.query.style) :=
    isLine_keyLine (by decide) (by cases config.query.style <;> decide)
  have warning : IsLine (warningLine config.diagnostics.warning) :=
    isLine_keyLine (by decide) (Numeral.not_mem_digits (by decide) config.diagnostics.warning)
  have reports : IsLine (reportsLine config.diagnostics.reportsJoins) :=
    isLine_keyLine (by decide) (by cases config.diagnostics.reportsJoins <;> decide)
  have query : IsLine (headerLine "query") := isLine_headerLine (by decide)
  have diagnostics : IsLine (headerLine "diagnostics") := isLine_headerLine (by decide)
  simp [allLines, style, warning, reports, query, diagnostics]

/-- A configuration file contains the configuration it was written from. -/
theorem isIn_toml (config : Config) : config.written.IsIn config.toml := by
  refine ⟨_, _, _, .inl ⟨_, .inl rfl, rfl⟩, .inl ⟨_, .inl rfl, rfl⟩, .inl rfl, ?_⟩
  rw [toml_eq, writtenLines_linesText config.isLine_allLines]
  rfl

/-! ## Round trip -/

/-- The text of a configuration with a positive threshold is read as this configuration, with a
threshold of zero it is refused, and a text of any of the key lines is read as the configuration
with these values and the defaults elsewhere, provided that its threshold is positive. -/
theorem ofToml_written :
    (∀ config : Config, 0 < config.diagnostics.warning →
      config.diagnostics.warning < Nat.pow 2 63 → ofToml config.toml = .ok config) ∧
    (∀ config : Config, config.diagnostics.warning = 0 → ofToml config.toml = .error .zeroWarning) ∧
    ∀ (written : Written) (text : String), written.IsIn text →
      (∀ warning ∈ written.warning, warning < Nat.pow 2 63) →
        0 < written.completed.diagnostics.warning → ofToml text = .ok written.completed := by
  have fits : ∀ warning : Nat, warning < Nat.pow 2 63 → warning < Nat.pow 2 64 := fun _ small =>
    Nat.lt_trans small (by decide)
  have all : ∀ config : Config, config.diagnostics.warning < Nat.pow 2 63 →
      ofToml config.toml = config.checked := by
    intro config small
    refine ofToml_eq_checked config.isIn_toml fun warning same => ?_
    obtain rfl := Option.some.inj same
    exact fits _ small
  refine ⟨fun config positive small => ?_, fun config zero => ?_,
    fun written text isIn small positive => ?_⟩
  · rw [all config small, checked_eq_ok_iff]
    exact ⟨positive, rfl⟩
  · have small : config.diagnostics.warning < Nat.pow 2 63 := by
      rw [zero]
      decide
    rw [all config small, checked, if_pos zero]
  · rw [ofToml_eq_checked isIn fun warning member => fits warning (small warning member),
      checked_eq_ok_iff]
    exact ⟨positive, rfl⟩

/-- The largest threshold is read back, and a text with one section before the other, an indented
key and an empty section is read with the defaults for the rest. -/
theorem ofToml_written_partly :
    ofToml (toml ⟨⟨.dollar⟩, ⟨Nat.pow 2 63 - 1, false⟩⟩) =
      .ok ⟨⟨.dollar⟩, ⟨Nat.pow 2 63 - 1, false⟩⟩ ∧
    ofToml (toml ⟨⟨.dollar⟩, ⟨0, false⟩⟩) = .error .zeroWarning ∧
    ofToml "[diagnostics]\n\n  log_join_summary = false\n[query]" =
      .ok ⟨⟨.question⟩, ⟨5, false⟩⟩ := by
  obtain ⟨whole, zero, part⟩ := ofToml_written
  refine ⟨whole _ (by decide) (by decide), zero _ rfl,
    part ⟨none, none, some false⟩ _ ?_ nofun (by decide)⟩
  exact ⟨_, _, _, .inl ⟨_, .inl rfl, rfl⟩, .inl ⟨_, .inl rfl, rfl⟩, .inr rfl, by decide⟩

end BoundSql.Config
