/-!
# Removal of a qualifier

Takes every `name.` that starts at an identifier boundary out of a text. The text is
cut at the first occurrence, and the search goes on behind it, so occurrences do not
overlap. A boundary is the beginning of the text, or a place behind a character that can
neither belong to a name nor be a point; behind a removed qualifier the last character
kept so far decides.
-/

namespace BoundSql.Qualifier

/-- The text before the first occurrence of `needle` and the text behind it. -/
def cut? (needle : List Char) : List Char → Option (List Char × List Char)
  | [] => none
  | c :: rest =>
    if needle.isPrefixOf (c :: rest) then some ([], (c :: rest).drop needle.length)
    else (cut? needle rest).map fun (before, behind) => (c :: before, behind)

/-- The cut takes at least the needle away. -/
theorem cut?_length {needle text before behind : List Char}
    (found : cut? needle text = some (before, behind)) :
    before.length + needle.length + behind.length = text.length := by
  induction text generalizing before behind with
  | nil => simp [cut?] at found
  | cons c rest ih =>
    simp only [cut?] at found
    split at found
    · next start =>
      have fits := (List.isPrefixOf_iff_prefix.1 start).length_le
      cases found
      simp only [List.length_nil, List.length_drop]
      omega
    · cases deeper : cut? needle rest with
      | none => simp [deeper] at found
      | some halves =>
        obtain ⟨before', behind'⟩ := halves
        simp only [deeper, Option.map_some, Option.some.injEq, Prod.mk.injEq] at found
        obtain ⟨rfl, rfl⟩ := found
        have shorter := ih deeper
        simp only [List.length_cons]
        omega

/-- The characters behind which no qualifier starts. -/
def continuesWord (c : Char) : Bool := c.isAlphanum || c == '_' || c == '.'

/-- Whether a name may start behind the given last character. -/
def atBoundary (last : Option Char) : Bool := !last.any continuesWord

/-- Removes the qualifier `name.` from a text, where `kept` has been kept so far. -/
def removeFrom (name : List Char) (kept text : List Char) : List Char :=
  match _cut : cut? (name ++ ['.']) text with
  | none => kept ++ text
  | some (before, behind) =>
    if atBoundary (before.getLast? <|> kept.getLast?) then
      removeFrom name (kept ++ before) behind
    else removeFrom name (kept ++ before ++ name ++ ['.']) behind
termination_by text.length
decreasing_by
  all_goals
    have shorter := cut?_length _cut
    simp only [List.length_append, List.length_singleton] at shorter
    omega

/-- Removes the qualifier `name.` from a text. -/
def remove (name text : String) : String :=
  String.ofList (removeFrom name.toList [] text.toList)

end BoundSql.Qualifier
