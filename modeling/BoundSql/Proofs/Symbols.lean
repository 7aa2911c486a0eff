import BoundSql.Query

/-!
# Drafts symbol by symbol

What a draft emits, however it is cut into pieces: characters, with values between them.
The text of a finished statement is this sequence with every value replaced by its
placeholder (`toList_text_bake`). Where no character is one that starts a placeholder,
text and values together determine the sequence (`eq_of_spell_eq`).
-/

namespace BoundSql

/-- What stands at one place of a draft. -/
inductive Symbol where
  /-- A character of the text. -/
  | char (c : Char)
  /-- A value. -/
  | value (v : Value)
deriving DecidableEq, Repr

namespace Symbol

/-- The characters of a text. -/
def ofText (s : String) : List Symbol := s.toList.map char

/-- The values in a row of symbols, in order. -/
def values : List Symbol → List Value
  | [] => []
  | char _ :: rest => values rest
  | value v :: rest => v :: values rest

/-- The characters of a row of symbols, where every value is replaced by its placeholder
and `bound` values already stand before them. -/
def spell (style : PlaceholderStyle) (bound : Nat) : List Symbol → List Char
  | [] => []
  | char c :: rest => c :: spell style bound rest
  | value _ :: rest => (style.mark (bound + 1)).toList ++ spell style (bound + 1) rest

@[simp] theorem ofText_empty : ofText "" = [] := rfl

/-- Joined texts have the symbols of both. -/
@[simp] theorem ofText_append (s t : String) : ofText (s ++ t) = ofText s ++ ofText t := by
  simp [ofText]

/-- The values of joined rows are those of both, in order. -/
@[simp] theorem values_append (xs ys : List Symbol) :
    values (xs ++ ys) = values xs ++ values ys := by
  induction xs with
  | nil => rfl
  | cons symbol rest ih => cases symbol <;> simp [values, ih]

/-- Characters are no values. -/
@[simp] theorem values_map_char (cs : List Char) : values (cs.map char) = [] := by
  induction cs with
  | nil => rfl
  | cons c rest ih => simpa [values] using ih

/-- A text holds no values. -/
@[simp] theorem values_ofText (s : String) : values (ofText s) = [] := values_map_char s.toList

/-- Joined rows are spelled one after the other, with the numbers counted through. -/
theorem spell_append (style : PlaceholderStyle) (bound : Nat) (xs ys : List Symbol) :
    spell style bound (xs ++ ys) =
      spell style bound xs ++ spell style (bound + (values xs).length) ys := by
  induction xs generalizing bound with
  | nil => simp [spell, values]
  | cons symbol rest ih =>
    cases symbol with
    | char c => simp [spell, values, ih]
    | value v =>
      simp only [List.cons_append, spell, values, List.length_cons, ih, List.append_assoc]
      rw [Nat.add_right_comm, Nat.add_assoc]

/-- Characters are spelled as themselves. -/
@[simp] theorem spell_map_char (style : PlaceholderStyle) (bound : Nat) (cs : List Char) :
    spell style bound (cs.map char) = cs := by
  induction cs with
  | nil => rfl
  | cons c rest ih => simp [spell, ih]

/-- A text is spelled as itself, and what follows it is counted from the same number. -/
@[simp] theorem spell_ofText_append (style : PlaceholderStyle) (bound : Nat) (s : String)
    (rest : List Symbol) :
    spell style bound (ofText s ++ rest) = s.toList ++ spell style bound rest := by
  rw [spell_append, values_ofText]
  simp [ofText]

/-- A text is spelled as itself. -/
@[simp] theorem spell_ofText (style : PlaceholderStyle) (bound : Nat) (s : String) :
    spell style bound (ofText s) = s.toList := by
  simp [ofText]

/-- Texts with the same symbols are equal. -/
theorem eq_of_ofText_eq {s t : String} (same : ofText s = ofText t) : s = t := by
  apply String.toList_injective
  have spelled := congrArg (spell .question 0) same
  rwa [spell_ofText, spell_ofText] at spelled

/-- Whether a character starts no placeholder. -/
def ordinary (c : Char) : Bool := c != '?' && c != '$'

/-- No character of the row starts a placeholder. -/
def Plain (symbols : List Symbol) : Prop := ∀ c, char c ∈ symbols → ordinary c = true

/-- Values do not matter for plainness. -/
@[simp] theorem plain_cons_value {v : Value} {rest : List Symbol} :
    Plain (value v :: rest) ↔ Plain rest := by simp [Plain]

/-- A character has to be plain itself. -/
@[simp] theorem plain_cons_char {c : Char} {rest : List Symbol} :
    Plain (char c :: rest) ↔ ordinary c = true ∧ Plain rest := by
  simp [Plain, or_imp, forall_and]

/-- A text is plain exactly if all its characters are ordinary. -/
theorem plain_ofText {s : String} : Plain (ofText s) ↔ ∀ c ∈ s.toList, ordinary c = true := by
  simp [Plain, ofText]

/-- A placeholder starts with a character that is not plain. -/
theorem mark_eq_cons (style : PlaceholderStyle) (number : Nat) :
    ∃ lead rest, (style.mark number).toList = lead :: rest ∧ ordinary lead = false := by
  cases style with
  | question => exact ⟨'?', [], by simp [PlaceholderStyle.mark], rfl⟩
  | dollar => exact ⟨'$', (toString number).toList, by simp [PlaceholderStyle.mark], rfl⟩

/-- Between plain characters the placeholders can be told apart, and each takes the next
value: text and values determine the row. -/
theorem eq_of_spell_eq {style : PlaceholderStyle} {bound : Nat} {xs ys : List Symbol}
    (plain : Plain xs) (plain' : Plain ys) (sameValues : values xs = values ys)
    (sameText : spell style bound xs = spell style bound ys) : xs = ys := by
  induction xs generalizing ys bound with
  | nil =>
    obtain ⟨lead, more, shape, _⟩ := mark_eq_cons style (bound + 1)
    cases ys with
    | nil => rfl
    | cons symbol rest => cases symbol <;> simp [spell, shape] at sameText
  | cons symbol rest ih =>
    obtain ⟨lead, more, shape, special⟩ := mark_eq_cons style (bound + 1)
    cases symbol with
    | char c =>
      have clean := (plain_cons_char.1 plain).1
      cases ys with
      | nil => simp [spell] at sameText
      | cons symbol' rest' =>
        cases symbol' with
        | char c' =>
          simp only [spell, List.cons.injEq] at sameText
          obtain ⟨rfl, later⟩ := sameText
          rw [ih (plain_cons_char.1 plain).2 (plain_cons_char.1 plain').2 sameValues later]
        | value v =>
          simp only [spell, shape, List.cons_append, List.cons.injEq] at sameText
          simp [sameText.1, special] at clean
    | value v =>
      cases ys with
      | nil => simp [spell, shape] at sameText
      | cons symbol' rest' =>
        cases symbol' with
        | char c =>
          have clean := (plain_cons_char.1 plain').1
          simp only [spell, shape, List.cons_append, List.cons.injEq] at sameText
          simp [← sameText.1, special] at clean
        | value v' =>
          -- both placeholders have the same number, so they cancel whatever their length
          simp only [spell, List.append_cancel_left_eq] at sameText
          simp only [values, List.cons.injEq] at sameValues
          obtain ⟨rfl, laterValues⟩ := sameValues
          rw [ih (plain_cons_value.1 plain) (plain_cons_value.1 plain') laterValues sameText]

end Symbol

namespace Draft

/-- What a draft emits, symbol by symbol. -/
def symbols : Draft → List Symbol
  | [] => []
  | .text s :: rest => Symbol.ofText s ++ symbols rest
  | .param v :: rest => .value v :: symbols rest

/-- The symbols of a composed draft are those of its parts, in order. -/
@[simp] theorem symbols_append (first second : Draft) :
    symbols (first ++ second) = symbols first ++ symbols second := by
  induction first with
  | nil => rfl
  | cons piece rest ih => cases piece <;> simp [symbols, ih]

@[simp] theorem symbols_nil : symbols [] = [] := rfl

/-- A text emits its characters. -/
@[simp] theorem symbols_text (s : String) : symbols (text s) = Symbol.ofText s := by
  simp [symbols, text]

/-- A value emits itself. -/
@[simp] theorem symbols_param (v : Value) : symbols (param v) = [.value v] := rfl

/-- The values of a draft are those among its symbols. -/
@[simp] theorem values_symbols (draft : Draft) : Symbol.values draft.symbols = draft.values := by
  induction draft with
  | nil => rfl
  | cons piece rest ih => cases piece <;> simp [symbols, values, Symbol.values, ih]

/-- A text in front of a draft emits its characters first. -/
theorem symbols_prependText (s : String) (draft : Draft) :
    symbols (prependText s draft) = Symbol.ofText s ++ symbols draft := by
  by_cases vacant : s = ""
  · simp [vacant]
  cases draft with
  | nil => rw [prependText_nil vacant]; rfl
  | cons piece rest =>
    cases piece with
    | text t => simp [prependText_text vacant, symbols]
    | param v => rw [prependText_param vacant]; rfl

/-- The canonical form emits the same symbols. -/
@[simp] theorem symbols_canonical (draft : Draft) : symbols (canonical draft) = symbols draft := by
  induction draft with
  | nil => rfl
  | cons piece rest ih =>
    cases piece with
    | param v => simp [canonical, symbols, ih]
    | text s => rw [canonical_cons_text, symbols_prependText, ih, symbols]

/-- The texts of the pieces, joined, are the spelled symbols. -/
theorem toList_join_marked (style : PlaceholderStyle) (bound : Nat) (draft : Draft) :
    (String.join (marked style bound draft)).toList = Symbol.spell style bound draft.symbols := by
  induction draft generalizing bound with
  | nil => rfl
  | cons piece rest ih =>
    cases piece with
    | text s => simp [marked, symbols, String.join_cons, ih]
    | param v => simp [marked, symbols, String.join_cons, Symbol.spell, ih]

/-- The text of a finished statement spells what its draft emits. -/
theorem toList_text_bake (style : PlaceholderStyle) (draft : Draft) :
    (draft.bake style).text.toList = Symbol.spell style 0 draft.symbols :=
  toList_join_marked style 0 draft

/-- Plain drafts that are finished to the same text and the same values emit the same
symbols. -/
theorem symbols_eq_of_bake_eq {style : PlaceholderStyle} {first second : Draft}
    (plain : Symbol.Plain first.symbols) (plain' : Symbol.Plain second.symbols)
    (sameText : (first.bake style).text = (second.bake style).text)
    (sameParams : (first.bake style).params = (second.bake style).params) :
    first.symbols = second.symbols := by
  have spelled := congrArg String.toList sameText
  rw [toList_text_bake, toList_text_bake] at spelled
  rw [params_bake, params_bake] at sameParams
  exact Symbol.eq_of_spell_eq plain plain' (by simpa using sameParams) spelled

end Draft

end BoundSql
