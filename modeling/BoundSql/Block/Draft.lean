import BoundSql.Block
import BoundSql.Qualifier

/-!
# Blocks as drafts

How a block stands in a statement: its parts with their combinators between them, and
every nested block in one pair of parentheses. Where an alias is `unqualified`, its
qualifier is left out of conditions and removed from raw texts.
-/

namespace BoundSql

/-- A combinator between two parts. -/
def Combinator.linkDraft : Option Combinator → Draft
  | none => []
  | some combinator => Draft.text " " ++ Draft.text combinator.sql ++ Draft.text " "

/-- A raw text, with the qualifier of an `unqualified` alias removed. -/
def Part.rawText (unqualified : Option TableName) (text : String) : String :=
  match unqualified with
  | none => text
  | some name => Qualifier.remove name.text text

mutual

/-- A part as it stands in a statement. A nested block without parts leaves no trace. -/
def Part.draft (unqualified : Option TableName) : Part → Draft
  | .condition condition => condition.draft unqualified
  | .group .empty => []
  | .group block => Draft.text "(" ++ block.draft unqualified ++ Draft.text ")"
  | .text text => Draft.text (Part.rawText unqualified text)

/-- The parts of a block with their combinators, without parentheses around them. -/
def Block.draft (unqualified : Option TableName) : Block → Draft
  | .empty => []
  | .entry link part rest =>
    Combinator.linkDraft link ++ part.draft unqualified ++ rest.draft unqualified

end

/-- A block in parentheses; nothing for a block without parts. -/
def Block.groupedDraft (unqualified : Option TableName) (block : Block) : Draft :=
  (Part.group block).draft unqualified

/-- A combinator binds nothing. -/
@[simp] theorem Combinator.values_linkDraft (link : Option Combinator) :
    (Combinator.linkDraft link).values = [] := by
  cases link <;> rfl

mutual

/-- A part binds the same values whatever is unqualified. -/
@[simp] theorem Part.values_draft (unqualified : Option TableName) :
    (part : Part) → (part.draft unqualified).values = part.values
  | .condition condition => by simp [Part.draft, Part.values]
  | .group .empty => by simp [Part.draft, Part.values, Block.values, Draft.values]
  | .group (.entry link part rest) => by
    have inner := Block.values_draft unqualified (.entry link part rest)
    simp only [Part.draft, Part.values, Draft.values_append, Draft.values_text, inner]
    simp
  | .text text => by simp [Part.draft, Part.values]

/-- A block binds the same values whatever is unqualified. -/
@[simp] theorem Block.values_draft (unqualified : Option TableName) :
    (block : Block) → (block.draft unqualified).values = block.values
  | .empty => rfl
  | .entry link part rest => by
    have first := Part.values_draft unqualified part
    have others := Block.values_draft unqualified rest
    simp only [Block.draft, Block.values, Draft.values_append, Combinator.values_linkDraft,
      first, others, List.nil_append]

end

end BoundSql
