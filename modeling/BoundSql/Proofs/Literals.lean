import BoundSql.Proofs.DeleteText

/-!
# String literals in deletions

A deletion takes the qualifier of its table out of raw texts wherever it stands at a boundary, and
does not ask whether it stands in a string literal. Single quotes cut a text into segments; where
they pair up, every second segment is a literal. A quote neither belongs to a name nor is a point,
so a qualifier is removed segment by segment (`Qualifier.segments_remove`): no segment is lost, and
a segment stays as it is exactly if the qualifier stands at no boundary in it
(`Qualifier.remove_eq_self_iff`).

So a deletion keeps the literals that have no qualifier at a boundary (`Delete.literal_kept_iff`),
and rewrites the others (`Delete.literal_rewritten`).
-/

namespace BoundSql

open BoundSql.Symbol (spell)

namespace Qualifier

variable {name text : List Char} {last : Option Char}

/-- The qualifier `name.` stands somewhere in the text, with a boundary before it. -/
def Occurs (name text : List Char) : Prop :=
  ∃ before behind, text = before ++ (name ++ '.' :: behind) ∧ atBoundary before.getLast? = true

/-- The segments of a text between its single quotes. -/
def segments (text : String) : List String := (text.toList.splitOn '\'').map String.ofList

/-- A scan leaves a text as it is exactly if no qualifier in it has a boundary before it. -/
theorem scan_eq_self_iff :
    scan name last text = text ↔ ∀ before behind, text = before ++ (name ++ '.' :: behind) →
      atBoundary (before.getLast?.or last) = false := by
  fun_induction scan name last text with
  | case1 last => simp
  | case2 last c rest skips ih =>
    simp only [Bool.and_eq_true] at skips
    obtain ⟨tail, shape⟩ := List.isPrefixOf_iff_prefix.1 skips.1
    have shorter := (scan_sublist name last (rest.drop name.length)).length_le
    constructor
    · intro same
      have lengths := congrArg List.length same
      simp only [List.length_cons, List.length_drop] at lengths shorter
      omega
    · intro free
      have inside := free [] tail (by simp [← shape])
      simp [skips.2] at inside
  | case3 last c rest copies ih =>
    rw [List.cons_eq_cons]
    simp only [true_and, ih]
    constructor
    · intro free before behind shape
      cases before with
      | nil =>
        have starts : (name ++ ['.']).isPrefixOf (c :: rest) = true :=
          List.isPrefixOf_iff_prefix.2 ⟨behind, by simp [shape]⟩
        simpa [starts] using copies
      | cons first more =>
        simp only [List.cons_append, List.cons.injEq] at shape
        obtain ⟨rfl, shape⟩ := shape
        have inside := free more behind shape
        cases more <;> simpa [List.getLast?_cons] using inside
    · intro free before behind shape
      have inside := free (c :: before) behind (by rw [shape, List.cons_append])
      cases before <;> simpa [List.getLast?_cons] using inside

/-- The removal of a qualifier leaves a text as it is exactly if the qualifier stands at no boundary
in it. -/
theorem remove_eq_self_iff {name : TableName} {text : String} :
    remove name.text text = text ↔ ¬ Occurs name.text.toList text.toList := by
  rw [← String.toList_inj, toList_remove, scan_eq_self_iff, Occurs]
  simp

/-- Cut at a mark, a scanned text has the scanned pieces. -/
theorem splitOn_scan {mark : Char} (word : ∀ c ∈ name, continuesWord c = true)
    (outside : continuesWord mark = false) (text : List Char) :
    (scan name none text).splitOn mark = (text.splitOn mark).map (scan name none) := by
  by_cases marked : mark ∈ text
  · obtain ⟨first, rest, shape, absent⟩ := List.eq_append_cons_of_mem marked
    have absent' : mark ∉ scan name none first := fun member =>
      absent ((scan_sublist name none first).subset member)
    have shorter : rest.length < text.length := by simp [shape]; omega
    rw [shape, scan_append_mark word outside, List.splitOn_append_cons_self,
      List.splitOn_append_cons_self, List.map_append, splitOn_scan word outside rest,
      List.splitOn_eq_singleton absent, List.splitOn_eq_singleton absent', List.map_singleton]
  · have absent : mark ∉ scan name none text := fun member =>
      marked ((scan_sublist name none text).subset member)
    rw [List.splitOn_eq_singleton marked, List.splitOn_eq_singleton absent, List.map_singleton]
termination_by text.length

/-- A qualifier is removed from each segment of a text by itself. -/
theorem segments_remove (name : TableName) (text : String) :
    segments (remove name.text text) = (segments text).map (remove name.text) := by
  have outside : continuesWord '\'' = false := by decide
  have pieces := splitOn_scan (continuesWord_of_isWord name.isWord) outside text.toList
  rw [segments, segments, toList_remove, pieces, List.map_map, List.map_map]
  refine List.map_congr_left fun piece _ => String.toList_injective ?_
  simp [toList_remove]

end Qualifier

mutual

/-- Each raw text of a part is a piece of its draft, without the qualifier that is left out. -/
theorem Part.exists_draft_of_mem_rawTexts (unqualified : Option TableName) {text : String} :
    {part : Part} → text ∈ part.rawTexts →
      ∃ before behind, part.draft unqualified =
        before ++ (Draft.text (Part.rawText unqualified text) ++ behind)
  | .condition _, member => absurd member List.not_mem_nil
  | .group .empty, member => absurd member List.not_mem_nil
  | .group (.entry link part rest), member => by
    obtain ⟨before, behind, inside⟩ := Block.exists_draft_of_mem_rawTexts unqualified member
    refine ⟨Draft.text "(" ++ before, behind ++ Draft.text ")", ?_⟩
    simp only [Part.draft, inside, List.append_assoc]
  | .text own, member => by
    obtain rfl := List.mem_singleton.1 member
    exact ⟨[], [], by simp [Part.draft]⟩

/-- Each raw text of a block is a piece of its draft, without the qualifier that is left out. -/
theorem Block.exists_draft_of_mem_rawTexts (unqualified : Option TableName) {text : String} :
    {block : Block} → text ∈ block.rawTexts →
      ∃ before behind, block.draft unqualified =
        before ++ (Draft.text (Part.rawText unqualified text) ++ behind)
  | .empty, member => absurd member List.not_mem_nil
  | .entry link part rest, member => by
    rcases List.mem_append.1 member with first | later
    · obtain ⟨before, behind, inside⟩ := Part.exists_draft_of_mem_rawTexts unqualified first
      refine ⟨Combinator.linkDraft link ++ before, behind ++ rest.draft unqualified, ?_⟩
      simp only [Block.draft, inside, List.append_assoc]
    · obtain ⟨before, behind, inside⟩ := Block.exists_draft_of_mem_rawTexts unqualified later
      refine ⟨Combinator.linkDraft link ++ part.draft unqualified ++ before, behind, ?_⟩
      simp only [Block.draft, inside, List.append_assoc]

end

/-- A text that is a piece of a draft is spelled among its symbols. -/
theorem Draft.exists_spell (style : PlaceholderStyle) (bound : Nat) (before behind : Draft)
    (s : String) :
    ∃ front back, String.ofList (spell style bound (before ++ (text s ++ behind)).symbols) =
      front ++ s ++ back := by
  refine ⟨.ofList (spell style bound before.symbols),
    .ofList (spell style (bound + before.values.length) behind.symbols),
    String.toList_injective ?_⟩
  simp [Symbol.spell_append]

/-- Each raw text of the filter stands in the clause of a deletion, without the qualifier of the
table. -/
theorem Delete.exists_text_of_mem_rawTexts (table : TableRef) {filter : Block} {text : String}
    (member : text ∈ filter.rawTexts) (style : PlaceholderStyle) :
    ∃ front back, ((assemble { table, filter }).bake style).text =
      "DELETE FROM " ++ table.name.text ++ " WHERE " ++
        (front ++ Qualifier.remove table.aliasName.text text ++ back) := by
  cases filter with
  | empty => cases member
  | entry link part rest =>
    have grouped : text ∈ (Part.group (.entry link part rest)).rawTexts := member
    obtain ⟨before, behind, inside⟩ :=
      Part.exists_draft_of_mem_rawTexts (some table.aliasName) grouped
    obtain ⟨front, back, spelled⟩ := Draft.exists_spell style 0 before behind
      (Qualifier.remove table.aliasName.text text)
    have clause : (whereDraft (some table.aliasName) (.entry link part rest)).symbols =
        Symbol.ofText " WHERE " ++ (before ++
          (Draft.text (Qualifier.remove table.aliasName.text text) ++ behind)).symbols := by
      simp [whereDraft, Block.isEmpty, Block.groupedDraft, inside, Part.rawText]
    refine ⟨front, back, ?_⟩
    rw [text_filtered, clause, Symbol.spell_ofText_append, String.ofList_append,
      String.ofList_toList, spelled]
    simp only [String.append_assoc]

/-- Each raw text of the filter stands in the clause of a deletion without the qualifier of the
table. It has as many segments there, each without the qualifier; so a segment, such as the literal
between two quotes, is kept exactly if the qualifier stands at no boundary in it. -/
theorem Delete.literal_kept_iff (table : TableRef) (filter : Block) (style : PlaceholderStyle) :
    ∀ text ∈ filter.rawTexts,
      (∃ front back, ((assemble { table, filter }).bake style).text =
        "DELETE FROM " ++ table.name.text ++ " WHERE " ++
          (front ++ Qualifier.remove table.aliasName.text text ++ back)) ∧
      (Qualifier.segments (Qualifier.remove table.aliasName.text text)).length =
        (Qualifier.segments text).length ∧
      ∀ (place : Nat) (segment : String), (Qualifier.segments text)[place]? = some segment →
        (Qualifier.segments (Qualifier.remove table.aliasName.text text))[place]? =
          some (Qualifier.remove table.aliasName.text segment) ∧
        ((Qualifier.segments (Qualifier.remove table.aliasName.text text))[place]? =
            some segment ↔
          ¬ Qualifier.Occurs table.aliasName.text.toList segment.toList) := by
  intro text member
  refine ⟨exists_text_of_mem_rawTexts table member style, ?_, ?_⟩
  · rw [Qualifier.segments_remove, List.length_map]
  · intro place segment found
    have stripped : (Qualifier.segments (Qualifier.remove table.aliasName.text text))[place]? =
        some (Qualifier.remove table.aliasName.text segment) := by
      rw [Qualifier.segments_remove, List.getElem?_map, found, Option.map_some]
    refine ⟨stripped, ?_⟩
    rw [stripped, Option.some_inj]
    exact Qualifier.remove_eq_self_iff

namespace Sample

/-- Users by their address. -/
def addressed (address : String) : Block := Block.empty.addText ("u.mail = '" ++ address ++ "'")

end Sample

/-- The address `me@menu.org` has the qualifier `u.` at no boundary, and is kept. -/
theorem Delete.literal_kept_menu :
    "u.mail = 'me@menu.org'" ∈ (Sample.addressed "me@menu.org").rawTexts ∧
    (Qualifier.segments "u.mail = 'me@menu.org'")[1]? = some "me@menu.org" ∧
    (Qualifier.segments
      (Qualifier.remove Sample.users.aliasName.text "u.mail = 'me@menu.org'"))[1]? =
        some "me@menu.org" := by
  have member : "u.mail = 'me@menu.org'" ∈ (Sample.addressed "me@menu.org").rawTexts := by
    decide +kernel
  have found : (Qualifier.segments "u.mail = 'me@menu.org'")[1]? = some "me@menu.org" := by
    decide +kernel
  obtain ⟨_, _, each⟩ :=
    literal_kept_iff Sample.users (Sample.addressed "me@menu.org") .question _ member
  refine ⟨member, found, (each 1 _ found).2.2 ?_⟩
  rw [← Qualifier.remove_eq_self_iff]
  decide +kernel

/-- The address `me@u.org` is rewritten: the qualifier stands behind a character that ends a
name. -/
theorem Delete.literal_rewritten :
    (Sample.addressed "me@u.org").rawTexts = ["u.mail = 'me@u.org'"] ∧
    "u.mail = 'me@u.org'".toList.count '\'' = 2 ∧
    (Qualifier.segments "u.mail = 'me@u.org'")[1]? = some "me@u.org" ∧
    (Qualifier.segments (Qualifier.remove "u" "u.mail = 'me@u.org'"))[1]? = some "me@org" ∧
    ((assemble { table := Sample.users, filter := Sample.addressed "me@u.org" }).bake
      .question).text = "DELETE FROM users WHERE (mail = 'me@org')" := by
  decide +kernel

end BoundSql
