import BoundSql.Proofs.AlikeDrafts
import BoundSql.Proofs.Symbols
import Mathlib.Data.List.Chain

/-!
# Canonical drafts

Drafts without empty texts and without neighbouring texts (`Draft.Canonical`). In such a draft the
texts are the rows of characters between the values, so that the draft can be read off what it emits
(`Draft.ofSymbols_symbols`). Hence canonical drafts are alike exactly if what they emit is alike,
whichever values count as related (`Draft.Canonical.alike_iff`); with equal values, they are equal
exactly if they emit the same (`Draft.Canonical.eq_iff`). The canonical form of a draft is the one
canonical draft that emits the same as it.
-/

namespace BoundSql

/-- Whether a piece is a text. -/
def Fragment.isText : Fragment → Bool
  | .text _ => true
  | .param _ => false

/-- The same character, or related values. -/
inductive Symbol.Alike (R : Value → Value → Prop) : Symbol → Symbol → Prop where
  | char (c : Char) : Symbol.Alike R (.char c) (.char c)
  | value {v v' : Value} (values : R v v') : Symbol.Alike R (.value v) (.value v')

/-- Nothing but the same symbol is alike if values have to be equal. -/
theorem Symbol.alike_eq : Symbol.Alike Eq = Eq := by
  funext x y
  refine propext ⟨fun alike => ?_, fun same => ?_⟩
  · cases alike with
    | char c => rfl
    | value values => rw [values]
  · rw [← same]
    cases x with
    | char c => exact .char c
    | value v => exact .value rfl

/-- Nothing but the same piece is alike if values have to be equal. -/
theorem Fragment.alike_eq : Fragment.Alike Eq = Eq := by
  funext x y
  refine propext ⟨fun alike => ?_, fun same => ?_⟩
  · cases alike with
    | text s => rfl
    | param values => rw [values]
  · rw [← same]
    cases x with
    | text s => exact .text s
    | param v => exact .param rfl

namespace Draft

variable {R : Value → Value → Prop}

/-- A draft without empty texts and without neighbouring texts. -/
structure Canonical (draft : Draft) : Prop where
  /-- No text is empty. -/
  filled : ∀ s, .text s ∈ draft → s ≠ ""
  /-- Of two neighbours one is a value. -/
  apart : draft.IsChain fun left right => (left.isText && right.isText) = false

/-- Two canonical drafts come to a canonical one if no texts meet between them. -/
theorem canonical_append {first second : Draft} :
    Canonical (first ++ second) ↔ Canonical first ∧ Canonical second ∧
      ∀ left ∈ first.getLast?, ∀ right ∈ second.head?, (left.isText && right.isText) = false := by
  constructor
  · rintro ⟨filled, apart⟩
    obtain ⟨before, behind, between⟩ := List.isChain_append.1 apart
    exact ⟨⟨fun s inside => filled s (List.mem_append_left _ inside), before⟩,
      ⟨fun s inside => filled s (List.mem_append_right _ inside), behind⟩, between⟩
  · rintro ⟨one, two, between⟩
    refine ⟨fun s inside => ?_, List.isChain_append.2 ⟨one.apart, two.apart, between⟩⟩
    exact (List.mem_append.1 inside).elim (one.filled s) (two.filled s)

/-- A piece in front of a canonical draft makes a canonical one if no texts meet behind it. -/
theorem canonical_cons {piece : Fragment} {rest : Draft} :
    Canonical (piece :: rest) ↔ Canonical [piece] ∧ Canonical rest ∧
      ∀ next ∈ rest.head?, (piece.isText && next.isText) = false := by
  rw [← List.singleton_append, canonical_append]
  simp

/-- Nothing is canonical. -/
theorem canonical_nil : Canonical [] := ⟨by simp, .nil⟩

/-- A value is canonical. -/
theorem canonical_param (v : Value) : Canonical (param v) := ⟨by simp [param], .singleton _⟩

/-- A text is canonical unless it is empty. -/
theorem canonical_text {s : String} : Canonical (text s) ↔ s ≠ "" :=
  ⟨fun canonical => canonical.filled s (by simp [text]), fun present =>
    ⟨by simpa [text] using present, .singleton _⟩⟩

/-- The draft that emits a row of symbols, with a text for every row of characters. -/
def ofSymbols : List Symbol → Draft
  | [] => []
  | .char c :: rest => prependText (String.singleton c) (ofSymbols rest)
  | .value v :: rest => .param v :: ofSymbols rest

/-- Texts put in front of a draft one after the other are put there joined. -/
theorem prependText_append (s t : String) (draft : Draft) :
    prependText (s ++ t) draft = prependText s (prependText t draft) := by
  by_cases vacant : s = ""
  · simp [vacant]
  by_cases vacant' : t = ""
  · simp [vacant']
  have joined : s ++ t ≠ "" := by simp [vacant]
  cases draft with
  | nil => rw [prependText_nil joined, prependText_nil vacant', prependText_text vacant]
  | cons piece rest =>
    cases piece with
    | param v =>
      rw [prependText_param joined, prependText_param vacant', prependText_text vacant]
    | text r =>
      rw [prependText_text joined, prependText_text vacant', prependText_text vacant,
        String.append_assoc]

/-- A text in front of a canonical draft makes a canonical draft. -/
theorem Canonical.prependText {draft : Draft} (canonical : Canonical draft) (s : String) :
    Canonical (prependText s draft) := by
  by_cases vacant : s = ""
  · simpa [vacant] using canonical
  cases draft with
  | nil => exact prependText_nil vacant ▸ canonical_text.2 vacant
  | cons piece rest =>
    cases piece with
    | param v =>
      rw [prependText_param vacant]
      exact canonical_cons.2 ⟨canonical_text.2 vacant, canonical, by simp [Fragment.isText]⟩
    | text t =>
      obtain ⟨_, others, between⟩ := canonical_cons.1 canonical
      rw [prependText_text vacant]
      exact canonical_cons.2 ⟨canonical_text.2 (by simp [vacant]), others, between⟩

/-- The canonical form of a draft is canonical. -/
theorem canonical_canonical (draft : Draft) : Canonical (canonical draft) := by
  induction draft with
  | nil => exact canonical_nil
  | cons piece rest ih =>
    cases piece with
    | text s => exact canonical_cons_text s rest ▸ ih.prependText s
    | param v => exact canonical_cons.2 ⟨canonical_param v, ih, by simp [Fragment.isText]⟩

/-- The characters of a text are read as this text. -/
theorem ofSymbols_ofText_append (s : String) (rest : List Symbol) :
    ofSymbols (Symbol.ofText s ++ rest) = prependText s (ofSymbols rest) := by
  obtain ⟨cs, rfl⟩ : ∃ cs, s = String.ofList cs := ⟨s.toList, String.ofList_toList.symm⟩
  rw [Symbol.ofText, String.toList_ofList]
  induction cs with
  | nil => rfl
  | cons c more ih =>
    have split : String.ofList (c :: more) = String.singleton c ++ String.ofList more :=
      String.toList_injective (by simp)
    rw [List.map_cons, List.cons_append, ofSymbols, ih, split, prependText_append]

/-- A canonical draft is read off what it emits. -/
theorem ofSymbols_symbols {draft : Draft} (canonical : Canonical draft) :
    ofSymbols draft.symbols = draft := by
  induction draft with
  | nil => rfl
  | cons piece rest ih =>
    obtain ⟨first, others, between⟩ := canonical_cons.1 canonical
    cases piece with
    | param v => rw [symbols, ofSymbols, ih others]
    | text s =>
      have present : s ≠ "" := canonical_text.1 first
      rw [symbols, ofSymbols_ofText_append, ih others]
      -- behind the text stands nothing or a value, so that it is not joined with another one
      cases rest with
      | nil => rw [prependText_nil present]
      | cons next more =>
        cases next with
        | param v => rw [prependText_param present]
        | text t => simp [Fragment.isText] at between

/-- Alike rows are read as alike drafts. -/
theorem ofSymbols_alike {xs ys : List Symbol} (rows : List.Forall₂ (Symbol.Alike R) xs ys) :
    Alike R (ofSymbols xs) (ofSymbols ys) := by
  induction rows with
  | nil => exact alike_nil
  | cons symbols rest ih =>
    cases symbols with
    | char c => exact ih.prependText _
    | value values => exact .cons (.param values) ih

/-- Alike drafts emit alike rows. -/
theorem Alike.symbols {draft draft' : Draft} (drafts : Alike R draft draft') :
    List.Forall₂ (Symbol.Alike R) draft.symbols draft'.symbols := by
  induction drafts with
  | nil => exact .nil
  | cons pieces rest ih =>
    cases pieces with
    | text s =>
      refine List.rel_append ?_ ih
      rw [Symbol.ofText, List.forall₂_same]
      exact fun symbol inside => by
        obtain ⟨c, _, rfl⟩ := List.mem_map.1 inside
        exact .char c
    | param values => exact .cons (.value values) ih

namespace Canonical

variable {first second : Draft}

/-- Canonical drafts are alike exactly if they emit alike rows. -/
theorem alike_iff (one : Canonical first) (two : Canonical second) :
    Alike R first second ↔ List.Forall₂ (Symbol.Alike R) first.symbols second.symbols := by
  refine ⟨Alike.symbols, fun rows => ?_⟩
  rw [← ofSymbols_symbols one, ← ofSymbols_symbols two]
  exact ofSymbols_alike rows

/-- Canonical drafts are equal exactly if they emit the same. -/
theorem eq_iff (one : Canonical first) (two : Canonical second) :
    first = second ↔ first.symbols = second.symbols := by
  have drafts := one.alike_iff (R := Eq) two
  have equal {α : Type} : List.Forall₂ (@Eq α) = Eq := List.forall₂_eq_eq_eq
  rwa [Alike, Fragment.alike_eq, Symbol.alike_eq, equal, equal] at drafts

end Canonical

end Draft

end BoundSql
