import BoundSql.Proofs.Numerals
import BoundSql.Proofs.Words
import BoundSql.Query

/-!
# Queries told apart by their JSON text

The compact JSON text of a query determines the query, as long as it binds no floating-point number
and no instant (`Query.eq_of_json_eq`). A value is written without a mark of its kind, but its text
shows the kind: a string begins with a quotation mark, and what is written bare is a word or a
numeral. It also shows where the value ends: a string at the first quotation mark that is not
escaped, since no written character begins another one (`Json.eq_of_escaped_starts`), and what is
bare at the comma or the bracket behind it. So two lists of values with one text agree value by
value. An instant is written as a string, and what is no finite number as null: these two kinds lose
their mark.
-/

namespace BoundSql

namespace Json

/-- The characters that are escaped inside a string. -/
def escapedChars : List Char := '\x22' :: '\\' :: (List.range 32).map Char.ofNat

/-- A character that is not escaped is written as itself. -/
theorem escaped_of_not_mem {c : Char} (ordinary : c ∉ escapedChars) : escaped c = [c] := by
  have other : ∀ d ∈ escapedChars, c ≠ d := fun d known same => ordinary (same ▸ known)
  have printable : ¬ c.toNat < 32 := by
    intro control
    have known : Char.ofNat c.toNat ∈ (List.range 32).map Char.ofNat :=
      List.mem_map_of_mem (List.mem_range.2 control)
    rw [Char.ofNat_toNat] at known
    exact ordinary (List.mem_cons_of_mem _ (List.mem_cons_of_mem _ known))
  rw [escaped, if_neg (other _ (by decide)), if_neg (other _ (by decide)),
    if_neg (other _ (by decide)), if_neg (other _ (by decide)), if_neg (other _ (by decide)),
    if_neg (other _ (by decide)), if_neg (other _ (by decide)), if_neg printable]

/-- An escape begins with a backslash. -/
theorem head?_escape : ∀ c ∈ escapedChars, (escaped c).head? = some '\\' := by
  have all : escapedChars.all (fun c => (escaped c).head? = some '\\') = true := by decide +kernel
  simpa only [List.all_eq_true, decide_eq_true_eq] using all

/-- No escape begins another one. -/
theorem eq_of_escape_starts : ∀ c ∈ escapedChars, ∀ d ∈ escapedChars,
    escaped c <+: escaped d → c = d := by
  have all : escapedChars.all (fun c =>
      escapedChars.all fun d => escaped c <+: escaped d → c = d) = true := by decide +kernel
  simpa only [List.all_eq_true, decide_eq_true_eq] using all

/-- What begins a written character: a backslash, or the character itself. -/
theorem head?_escaped (c : Char) :
    (escaped c).head? = some (if c ∈ escapedChars then '\\' else c) := by
  by_cases special : c ∈ escapedChars
  · rw [if_pos special]
    exact head?_escape c special
  · rw [if_neg special, escaped_of_not_mem special, List.head?_cons]

/-- No written character begins another one. -/
theorem eq_of_escaped_starts {c d : Char} (starts : escaped c <+: escaped d) : c = d := by
  have heads : (if c ∈ escapedChars then '\\' else c) = if d ∈ escapedChars then '\\' else d := by
    obtain ⟨rest, shape⟩ := starts
    have first := head?_escaped d
    rw [← shape, List.head?_append, head?_escaped, Option.some_or] at first
    exact Option.some.inj first
  have backslash : '\\' ∈ escapedChars := by decide
  by_cases special : c ∈ escapedChars
  · by_cases special' : d ∈ escapedChars
    · exact eq_of_escape_starts c special d special' starts
    · rw [if_pos special, if_neg special'] at heads
      exact absurd (heads ▸ backslash) special'
  · by_cases special' : d ∈ escapedChars
    · rw [if_neg special, if_pos special'] at heads
      exact absurd (heads ▸ backslash) special
    · rwa [if_neg special, if_neg special'] at heads

/-- Two texts that begin with a written character are cut behind it in one way only. -/
theorem escaped_cut {c d : Char} {rest rest' : List Char}
    (same : escaped c ++ rest = escaped d ++ rest') : c = d ∧ rest = rest' := by
  have both : escaped c <+: escaped c ++ rest := List.prefix_append _ _
  have both' : escaped d <+: escaped c ++ rest := same ▸ List.prefix_append _ _
  have equal : c = d := by
    rcases List.prefix_or_prefix_of_prefix both both' with starts | starts
    · exact eq_of_escaped_starts starts
    · exact (eq_of_escaped_starts starts).symm
  subst equal
  exact ⟨rfl, List.append_cancel_left same⟩

/-- No written character begins with a quotation mark. -/
theorem escaped_ne_mark (c : Char) (rest rest' : List Char) :
    escaped c ++ rest ≠ '\x22' :: rest' := by
  intro same
  have first := head?_escaped c
  have lead : (escaped c ++ rest).head? = some '\x22' := by rw [same, List.head?_cons]
  rw [List.head?_append, first, Option.some_or] at lead
  by_cases special : c ∈ escapedChars
  · rw [if_pos special] at lead
    exact absurd lead (by decide)
  · rw [if_neg special] at lead
    cases lead
    exact special (by decide)

/-- Two texts that begin with a string are cut behind it in one way only. -/
theorem quoted_cut {s t : String} {rest rest' : List Char}
    (same : (quoted s).toList ++ rest = (quoted t).toList ++ rest') : s = t ∧ rest = rest' := by
  have inside : ∀ {cs ds : List Char},
      cs.flatMap escaped ++ '\x22' :: rest = ds.flatMap escaped ++ '\x22' :: rest' →
        cs = ds ∧ rest = rest' := by
    intro cs
    induction cs with
    | nil =>
      rintro (_ | ⟨d, more⟩) same
      · exact ⟨rfl, (List.cons.inj same).2⟩
      · rw [List.flatMap_cons, List.append_assoc] at same
        exact absurd same.symm (escaped_ne_mark d _ rest)
    | cons c others ih =>
      rintro (_ | ⟨d, more⟩) same
      · rw [List.flatMap_cons, List.append_assoc] at same
        exact absurd same (escaped_ne_mark c _ rest')
      · rw [List.flatMap_cons, List.append_assoc, List.flatMap_cons, List.append_assoc] at same
        obtain ⟨rfl, later⟩ := escaped_cut same
        obtain ⟨rfl, behind⟩ := ih later
        exact ⟨rfl, behind⟩
  simp only [quoted, String.toList_ofList, List.cons_append, List.append_assoc, List.nil_append,
    List.cons.injEq, true_and] at same
  obtain ⟨content, behind⟩ := inside same
  exact ⟨String.toList_injective content, behind⟩

/-- The characters of what is written bare: letters, digits and the minus sign. -/
def inBare (c : Char) : Bool := c.isAlphanum || c == '-'

/-- A numeral is written with digits and the minus sign. -/
theorem mem_toString_int {i : Int} {c : Char} (member : c ∈ (toString i).toList) :
    c.isDigit = true ∨ c = '-' := by
  cases i with
  | ofNat n => exact .inl (Numeral.isDigit_of_mem member)
  | negSucc n =>
    change c ∈ ("-" ++ (n + 1).repr).toList at member
    rw [String.toList_append, List.mem_append] at member
    rcases member with sign | inside
    · exact .inr (by simpa using sign)
    · exact .inl (Numeral.isDigit_of_mem inside)

/-- A numeral has a digit. -/
theorem toString_int_ne_nil (i : Int) : (toString i).toList ≠ [] := by
  cases i with
  | ofNat n => exact Numeral.digits_ne_nil n
  | negSucc n =>
    change ("-" ++ (n + 1).repr).toList ≠ []
    simp

/-- A numeral determines its integer. -/
theorem toString_int_injective {i j : Int} (same : toString i = toString j) : i = j := by
  have naturals : ∀ {m n : Nat}, m.repr = n.repr → m = n := fun equal =>
    Numeral.digits_inj (congrArg String.toList equal)
  have signed : ∀ m n : Nat, m.repr ≠ "-" ++ n.repr := by
    intro m n equal
    have sign : '-' ∈ m.repr.toList := by simp [equal]
    exact Numeral.not_mem_digits (by decide) m sign
  cases i with
  | ofNat m =>
    cases j with
    | ofNat n => rw [naturals same]
    | negSucc n => exact absurd same (signed m (n + 1))
  | negSucc m =>
    cases j with
    | ofNat n => exact absurd same.symm (signed n (m + 1))
    | negSucc n =>
      have magnitudes : m + 1 = n + 1 := naturals (String.append_right_inj "-" |>.1 same)
      rw [Nat.succ.inj magnitudes]

end Json

namespace Value

open Json (inBare)

/-- Whether the kind of a value shows in its JSON text: floating-point numbers that are not finite
are written as null, and instants as strings. -/
def showsKind : Value → Bool
  | .float _ | .instant _ => false
  | _ => true

/-- Whether a value is written without quotation marks. -/
def isBare : Value → Bool
  | .null | .bool _ | .integer _ => true
  | _ => false

variable {v v' : Value}

/-- A value that shows its kind is a text or written bare. -/
theorem text_or_bare (shown : v.showsKind = true) : (∃ s, v = .text s) ∨ v.isBare = true := by
  cases v with
  | text s => exact .inl ⟨s, rfl⟩
  | null | bool | integer => exact .inr rfl
  | float | instant => cases shown

/-- What is written bare is a word of letters, digits and minus signs. -/
theorem bare_json (bare : v.isBare = true) :
    v.json.toList ≠ [] ∧ ∀ c ∈ v.json.toList, inBare c = true := by
  cases v with
  | null => exact ⟨by decide, List.all_eq_true.1 (by decide)⟩
  | bool b => cases b <;> exact ⟨by decide, List.all_eq_true.1 (by decide)⟩
  | integer n =>
    refine ⟨Json.toString_int_ne_nil n.toInt, fun c member => ?_⟩
    rcases Json.mem_toString_int member with digit | rfl
    · simp [inBare, Char.isAlphanum, digit]
    · decide
  | text | float | instant => cases bare

/-- A word with a letter in it is no numeral. -/
theorem toString_int_ne {word : String} (letter : ∃ c ∈ word.toList, c.isDigit = false ∧ c ≠ '-')
    (i : Int) : toString i ≠ word := by
  rintro rfl
  obtain ⟨c, member, nondigit, unsigned⟩ := letter
  rcases Json.mem_toString_int member with digit | sign
  · rw [nondigit] at digit
    cases digit
  · exact unsigned sign

/-- What is written bare determines the value. -/
theorem eq_of_bare_json (bare : v.isBare = true) (bare' : v'.isBare = true)
    (same : v.json = v'.json) : v = v' := by
  have words : ∀ b : Bool, "null" ≠ Json.boolean b := by decide
  have booleans : ∀ b b' : Bool, Json.boolean b = Json.boolean b' → b = b' := by decide
  have null : ∀ i : Int, toString i ≠ "null" := toString_int_ne ⟨'n', by decide, by decide⟩
  have boolean : ∀ (b : Bool) (i : Int), toString i ≠ Json.boolean b := by
    intro b
    cases b
    · exact toString_int_ne ⟨'f', by decide, by decide⟩
    · exact toString_int_ne ⟨'t', by decide, by decide⟩
  cases v with
  | null =>
    cases v' with
    | null => rfl
    | bool b => exact absurd same (words b)
    | integer n => exact absurd same.symm (null n.toInt)
    | text | float | instant => cases bare'
  | bool b =>
    cases v' with
    | null => exact absurd same.symm (words b)
    | bool b' => rw [booleans b b' same]
    | integer n => exact absurd same.symm (boolean b n.toInt)
    | text | float | instant => cases bare'
  | integer n =>
    cases v' with
    | null => exact absurd same (null n.toInt)
    | bool b => exact absurd same (boolean b n.toInt)
    | integer n' => rw [Int64.toInt_inj.1 (Json.toString_int_injective same)]
    | text | float | instant => cases bare'
  | text | float | instant => cases bare

/-- A string does not begin like a word. -/
theorem quoted_ne_bare (bare : v.isBare = true) (s : String) (rest rest' : List Char) :
    (Json.quoted s).toList ++ rest ≠ v.json.toList ++ rest' := by
  obtain ⟨present, clean⟩ := bare_json bare
  intro same
  obtain ⟨first, more, shape⟩ := List.exists_cons_of_ne_nil present
  rw [shape, Json.quoted, String.toList_ofList] at same
  have lead : '\x22' = first := (List.cons.inj same).1
  have word : inBare first = true := clean first (shape ▸ List.mem_cons_self)
  rw [← lead] at word
  exact absurd word (by decide)

/-- A value is cut off from what follows it in one way only, if that begins with no character of
a bare value. -/
theorem json_cut {mark mark' : Char} {rest rest' : List Char} (shown : v.showsKind = true)
    (shown' : v'.showsKind = true) (ends : inBare mark = false) (ends' : inBare mark' = false)
    (same : v.json.toList ++ mark :: rest = v'.json.toList ++ mark' :: rest') :
    v = v' ∧ mark :: rest = mark' :: rest' := by
  rcases text_or_bare shown with ⟨s, rfl⟩ | bare
  · rcases text_or_bare shown' with ⟨t, rfl⟩ | bare'
    · obtain ⟨rfl, behind⟩ := Json.quoted_cut same
      exact ⟨rfl, behind⟩
    · exact absurd same (quoted_ne_bare bare' s _ _)
  · rcases text_or_bare shown' with ⟨t, rfl⟩ | bare'
    · exact absurd same.symm (quoted_ne_bare bare t _ _)
    · have outside : ¬ inBare mark = true := by rw [ends]; exact Bool.false_ne_true
      have outside' : ¬ inBare mark' = true := by rw [ends']; exact Bool.false_ne_true
      obtain ⟨words, marks, behind⟩ :=
        cut_at_mark (bare_json bare).2 (bare_json bare').2 outside outside' same
      exact ⟨eq_of_bare_json bare bare' (String.toList_injective words), by rw [marks, behind]⟩

/-- No value begins with a bracket. -/
theorem json_ne_bracket (shown : v.showsKind = true) (rest rest' : List Char) :
    v.json.toList ++ rest ≠ ']' :: rest' := by
  intro same
  rcases text_or_bare shown with ⟨s, rfl⟩ | bare
  · rw [json, Json.quoted, String.toList_ofList] at same
    exact absurd (List.cons.inj same).1 (by decide)
  · obtain ⟨present, clean⟩ := bare_json bare
    obtain ⟨first, more, shape⟩ := List.exists_cons_of_ne_nil present
    rw [shape] at same
    have lead : first = ']' := (List.cons.inj same).1
    have word : inBare first = true := clean first (shape ▸ List.mem_cons_self)
    rw [lead] at word
    exact absurd word (by decide)

/-- The values of a list behind the first one, each with the comma before it, up to the bracket. -/
def jsonBehind (rest : List Char) : List Value → List Char
  | [] => ']' :: rest
  | v :: others => ',' :: (v.json.toList ++ jsonBehind rest others)

/-- A list is written up to its first value, and then value by value. -/
theorem json_list (v : Value) (others : List Value) (rest : List Char) :
    (Json.list ((v :: others).map json)).toList ++ rest =
      '[' :: (v.json.toList ++ jsonBehind rest others) := by
  have behind : ∀ (v : Value) (others : List Value),
      (",".intercalate ((v :: others).map json)).toList ++ ']' :: rest =
        v.json.toList ++ jsonBehind rest others := by
    intro v others
    induction others generalizing v with
    | nil => simp [jsonBehind]
    | cons next more ih =>
      rw [List.map_cons, List.map_cons, String.intercalate_cons_cons, jsonBehind, ← ih next]
      simp
  rw [← behind]
  simp [Json.list]

/-- What follows a value of a list begins with a mark. -/
theorem jsonBehind_eq_cons (rest : List Char) (others : List Value) :
    ∃ mark more, jsonBehind rest others = mark :: more ∧ inBare mark = false := by
  cases others with
  | nil => exact ⟨']', rest, rfl, by decide⟩
  | cons v more => exact ⟨',', _, rfl, by decide⟩

/-- A value of a list is cut off from the others in one way only. -/
theorem json_cut_behind {rest rest' : List Char} {others others' : List Value}
    (shown : v.showsKind = true) (shown' : v'.showsKind = true)
    (same : v.json.toList ++ jsonBehind rest others = v'.json.toList ++ jsonBehind rest' others') :
    v = v' ∧ jsonBehind rest others = jsonBehind rest' others' := by
  obtain ⟨mark, more, shape, ends⟩ := jsonBehind_eq_cons rest others
  obtain ⟨mark', more', shape', ends'⟩ := jsonBehind_eq_cons rest' others'
  rw [shape, shape'] at same ⊢
  exact json_cut shown shown' ends ends' same

/-- The values behind the first one of a list are cut up in one way only. -/
theorem jsonBehind_cut {rest rest' : List Char} {others others' : List Value}
    (shown : ∀ v ∈ others, v.showsKind = true) (shown' : ∀ v ∈ others', v.showsKind = true)
    (same : jsonBehind rest others = jsonBehind rest' others') :
    others = others' ∧ rest = rest' := by
  induction others generalizing others' with
  | nil =>
    cases others' with
    | nil => exact ⟨rfl, (List.cons.inj same).2⟩
    | cons v' more' => exact absurd (List.cons.inj same).1 (by decide)
  | cons v more ih =>
    cases others' with
    | nil => exact absurd (List.cons.inj same).1 (by decide)
    | cons v' more' =>
      obtain ⟨first, later⟩ := List.forall_mem_cons.1 shown
      obtain ⟨first', later'⟩ := List.forall_mem_cons.1 shown'
      obtain ⟨rfl, behind⟩ := json_cut_behind first first' (List.cons.inj same).2
      obtain ⟨rfl, ends⟩ := ih later later' behind
      exact ⟨rfl, ends⟩

/-- Two texts that begin with a list are cut behind it in one way only. -/
theorem json_list_cut {vs vs' : List Value} {rest rest' : List Char}
    (shown : ∀ v ∈ vs, v.showsKind = true) (shown' : ∀ v ∈ vs', v.showsKind = true)
    (same : (Json.list (vs.map json)).toList ++ rest =
      (Json.list (vs'.map json)).toList ++ rest') : vs = vs' ∧ rest = rest' := by
  have vacant : ∀ rest, (Json.list (([] : List Value).map json)).toList ++ rest =
      '[' :: ']' :: rest := fun rest => by simp [Json.list]
  cases vs with
  | nil =>
    cases vs' with
    | nil => exact ⟨rfl, List.append_cancel_left same⟩
    | cons v' more' =>
      rw [vacant, json_list] at same
      exact absurd (List.cons.inj same).2.symm
        (json_ne_bracket (shown' v' List.mem_cons_self) _ _)
  | cons v more =>
    cases vs' with
    | nil =>
      rw [vacant, json_list] at same
      exact absurd (List.cons.inj same).2 (json_ne_bracket (shown v List.mem_cons_self) _ _)
    | cons v' more' =>
      rw [json_list, json_list] at same
      obtain ⟨first, later⟩ := List.forall_mem_cons.1 shown
      obtain ⟨first', later'⟩ := List.forall_mem_cons.1 shown'
      obtain ⟨rfl, behind⟩ := json_cut_behind first first' (List.cons.inj same).2
      obtain ⟨rfl, ends⟩ := jsonBehind_cut later later' behind
      exact ⟨rfl, ends⟩

end Value

/-- A query is written as its text and its values, under their keys. -/
theorem Query.toList_json (q : Query) :
    q.json.toList = "\x7b\x22query\x22:".toList ++ ((Json.quoted q.text).toList ++
      (",\x22params\x22:".toList ++ ((Json.list (q.params.map Value.json)).toList ++ ['\x7d']))) := by
  have query : Json.quoted "query" = "\x22query\x22" := by decide +kernel
  have params : Json.quoted "params" = "\x22params\x22" := by decide +kernel
  simp [json, Json.object, query, params]

/-- Queries whose values show their kind are equal as soon as their compact JSON texts are: the same
text, and the same values of the same kinds in the same order. -/
theorem Query.eq_of_json_eq {q q' : Query} (shown : ∀ v ∈ q.params, v.showsKind = true)
    (shown' : ∀ v ∈ q'.params, v.showsKind = true) (same : q.json = q'.json) : q = q' := by
  have letters := congrArg String.toList same
  rw [toList_json, toList_json] at letters
  obtain ⟨text, behind⟩ := Json.quoted_cut (List.append_cancel_left letters)
  obtain ⟨params, _⟩ := Value.json_list_cut shown shown' (List.append_cancel_left behind)
  cases q
  cases q'
  rw [Query.mk.injEq]
  exact ⟨text, params⟩

namespace Sample

/-- A query that binds the number one and texts that are written much like other values. -/
def lookalikes : Query :=
  ⟨"a = ? OR a = ? OR b IN (?, ?)", [.integer 1, .text "1", .text "null", .text "\",\n\""]⟩

end Sample

/-- A draft is finished to the query with the JSON text of its own. -/
theorem Query.eq_of_json_eq_lookalikes :
    (∀ v ∈ Sample.lookalikes.params, v.showsKind = true) ∧
    Sample.lookalikes.json = "\x7b\x22query\x22:\x22a = ? OR a = ? OR b IN (?, ?)\x22," ++
      "\x22params\x22:[1,\x221\x22,\x22null\x22,\x22\\\x22,\\n\\\x22\x22]\x7d" ∧
    (Draft.text "a = " ++ Draft.param (toValue (1 : Int64)) ++ Draft.text " OR a = " ++
      Draft.param (toValue "1") ++ Draft.text " OR b IN (" ++
      Draft.separated ", " (Draft.param ∘ toValue) ["null", "\",\n\""] ++
      Draft.text ")").bake .question = Sample.lookalikes := by
  have shown : ∀ v ∈ Sample.lookalikes.params, v.showsKind = true := by decide
  exact ⟨shown, by decide +kernel, eq_of_json_eq (by decide +kernel) shown (by decide +kernel)⟩

/-- An instant has the JSON text of a string, so that its kind cannot be told. -/
example : Value.json (.instant ⟨0, 0⟩) = Value.json (.text "1970-01-01T00:00:00Z") := by
  decide +kernel

end BoundSql
