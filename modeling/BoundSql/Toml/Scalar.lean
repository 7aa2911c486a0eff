import BoundSql.Toml.Node

/-!
# TOML scalars

The values that are written without quotation marks: truth values, integers in four
bases, floating-point numbers, and dates and times. Digits may be separated by single
underscores, and a decimal number has no leading zero. A number that is too large, that
has no digits behind the mark of its base, or that runs on behind an underscore with other
characters than digits, is let through without a value.
-/

namespace BoundSql.Toml

/-- A blank: a space or a tab. -/
def isBlank (c : Char) : Bool := c == ' ' || c == '\t'

namespace Scalar

/-- A hexadecimal digit in either case. -/
def isHexDigit (c : Char) : Bool :=
  c.isDigit || ('a' ≤ c && c ≤ 'f') || ('A' ≤ c && c ≤ 'F')

/-- The value of a digit in any base up to sixteen. -/
def digitValue (c : Char) : Nat :=
  if c.isDigit then c.toNat - 48 else if 'a' ≤ c then c.toNat - 87 else c.toNat - 55

/-- Removes single underscores between digits. Anything else is refused. -/
def separated (isDigit : Char → Bool) : List Char → Option (List Char)
  | [] => none
  | [c] => if isDigit c then some [c] else none
  | c :: '_' :: rest => if isDigit c then (separated isDigit rest).map (c :: ·) else none
  | c :: d :: rest => if isDigit c then (separated isDigit (d :: rest)).map (c :: ·) else none

/-- The number digits stand for in a base. -/
def natural (base : Nat) (digits : List Char) : Nat :=
  digits.foldl (fun n c => n * base + digitValue c) 0

/-- A sign, and what follows it. -/
def signed : List Char → Bool × List Char
  | '-' :: rest => (true, rest)
  | '+' :: rest => (false, rest)
  | rest => (false, rest)

/-- The digits of a decimal number without a leading zero. -/
def decimalDigits (token : List Char) : Option (List Char) :=
  match separated Char.isDigit token with
  | some ('0' :: _ :: _) => none
  | digits => digits

/-- Integers that fit into 128 bits, with or without a sign, have a value. -/
def integerNode (value : Int) : Node :=
  if -Int.pow 2 127 ≤ value ∧ value < Int.pow 2 128 then .integer value else .valueless

/-- An integer in a base, without the mark of the base. -/
def basedInteger? (base : Nat) (isDigit : Char → Bool) (token : List Char) : Option Node :=
  if token = [] then some .valueless
  else (separated isDigit token).map fun digits => integerNode (natural base digits)

/-- Whether every underscore stands between two hexadecimal digits, where `joined` tells
whether such a digit stands before the text. -/
def underscoresJoin (joined : Bool) : List Char → Bool
  | [] => true
  | '_' :: rest => joined && rest.head?.any isHexDigit && underscoresJoin false rest
  | c :: rest => underscoresJoin (isHexDigit c) rest

/-- Whether a text begins as a decimal integer without a leading zero and runs on behind an
underscore. What follows is not read as digits, so any character may stand in it but a
space, a point and the marks of an exponent. -/
def runsOn (body : List Char) : Bool :=
  body.head?.any (fun c => c.isDigit && c != '0') &&
    (body.dropWhile Char.isDigit).head? == some '_' && underscoresJoin false body &&
    body.all fun c => c != ' ' && c != '.' && c != 'e' && c != 'E'

/-- An integer: decimal with an optional sign, or in base sixteen, eight or two. -/
def integer? : List Char → Option Node
  | '0' :: 'x' :: rest => basedInteger? 16 isHexDigit rest
  | '0' :: 'o' :: rest => basedInteger? 8 (fun c => '0' ≤ c && c ≤ '7') rest
  | '0' :: 'b' :: rest => basedInteger? 2 (fun c => c == '0' || c == '1') rest
  | token =>
    let (negative, body) := signed token
    match decimalDigits body with
    | some digits =>
      let magnitude : Int := natural 10 digits
      some (integerNode (if negative then -magnitude else magnitude))
    | none => if runsOn body then some .valueless else none

/-- Whether `digits · 10 ^ exponent` rounds to a finite number of double precision, that
is, lies below `2 ^ 1024 - 2 ^ 970`. -/
def isFinite (digits : List Char) (exponent : Int) : Bool :=
  let significant := digits.dropWhile (· == '0')
  let order := exponent + significant.length
  if significant.isEmpty || order < 309 then true
  else if 309 < order then false
  else
    natural 10 significant * Nat.pow 10 exponent.toNat <
      (Nat.pow 2 1024 - Nat.pow 2 970) * Nat.pow 10 (-exponent).toNat

/-- The exponent of a floating-point number, zero where there is none. -/
def exponent? : List Char → Option Int
  | [] => some 0
  | c :: rest => do
    if c ≠ 'e' && c ≠ 'E' then none
    let (negative, digits) := signed rest
    let magnitude : Int := natural 10 (← separated Char.isDigit digits)
    return if negative then -magnitude else magnitude

/-- A character of a run of digits. -/
def inDigitRun (c : Char) : Bool := c.isDigit || c == '_'

/-- A floating-point number: a fraction, an exponent, or both, or one of the named values. -/
def float? (token : List Char) : Option Node := do
  let (_, body) := signed token
  if body = ['i', 'n', 'f'] || body = ['n', 'a', 'n'] then
    return .float (String.ofList token)
  let whole ← decimalDigits (body.takeWhile inDigitRun)
  let (fraction, rest) ← match body.dropWhile inDigitRun with
    | '.' :: rest => do
      pure (← separated Char.isDigit (rest.takeWhile inDigitRun), rest.dropWhile inDigitRun)
    | [] => none
    | rest => pure ([], rest)
  let exponent ← exponent? rest
  return if isFinite (whole ++ fraction) (exponent - fraction.length) then
    .float (String.ofList token)
  else .valueless

/-- Two digits as a number. -/
def two? (tens ones : Char) : Option Nat :=
  if tens.isDigit && ones.isDigit then some (digitValue tens * 10 + digitValue ones) else none

/-- Leap years of the Gregorian calendar. -/
def isLeap (year : Nat) : Bool := year % 4 == 0 && (year % 100 != 0 || year % 400 == 0)

/-- The number of days of a month. -/
def daysIn (year month : Nat) : Nat :=
  if month = 2 then (if isLeap year then 29 else 28)
  else if month = 4 || month = 6 || month = 9 || month = 11 then 30
  else 31

/-- A calendar date, and what follows it. -/
def date? : List Char → Option (List Char)
  | y₁ :: y₂ :: y₃ :: y₄ :: '-' :: m₁ :: m₂ :: '-' :: d₁ :: d₂ :: rest => do
    let century ← two? y₁ y₂
    let years ← two? y₃ y₄
    let month ← two? m₁ m₂
    let day ← two? d₁ d₂
    if 1 ≤ month && month ≤ 12 && 1 ≤ day && day ≤ daysIn (century * 100 + years) month then
      some rest
    else none
  | _ => none

/-- A fraction of a second, if there is one, and what follows it. -/
def fraction? : List Char → Option (List Char)
  | '.' :: d :: rest => if d.isDigit then some (rest.dropWhile Char.isDigit) else none
  | '.' :: [] => none
  | rest => some rest

/-- A time of day, and what follows it. Seconds may be left out. -/
def time? : List Char → Option (List Char)
  | h₁ :: h₂ :: ':' :: m₁ :: m₂ :: ':' :: s₁ :: s₂ :: rest => do
    let hour ← two? h₁ h₂
    let minute ← two? m₁ m₂
    let second ← two? s₁ s₂
    if hour ≤ 23 && minute ≤ 59 && second ≤ 60 then fraction? rest else none
  | h₁ :: h₂ :: ':' :: m₁ :: m₂ :: rest => do
    let hour ← two? h₁ h₂
    let minute ← two? m₁ m₂
    if hour ≤ 23 && minute ≤ 59 then some rest else none
  | _ => none

/-- Whether a text is the offset of a time from universal time, or nothing. -/
def isOffset : List Char → Bool
  | [] => true
  | ['Z'] | ['z'] => true
  | [sign, h₁, h₂, ':', m₁, m₂] =>
    (sign == '+' || sign == '-') &&
      (two? h₁ h₂).any (· ≤ 23) && (two? m₁ m₂).any (· ≤ 59)
  | _ => false

/-- A date, a time, or a date and a time with an optional offset. -/
def dateTime? (token : List Char) : Option Node :=
  let accepted := match date? token with
    | some [] => true
    | some (separator :: rest) =>
      (separator == 'T' || separator == 't' || separator == ' ') && (time? rest).any isOffset
    | none => (time? token).any List.isEmpty
  if accepted then some (.dateTime (String.ofList token)) else none

/-- The value of a word without quotation marks. -/
def node? (token : List Char) : Option Node :=
  if token = ['t', 'r', 'u', 'e'] then some (.boolean true)
  else if token = ['f', 'a', 'l', 's', 'e'] then some (.boolean false)
  else integer? token <|> float? token <|> dateTime? token

/-- The characters that end a word, besides blanks. -/
def endsWord (c : Char) : Bool :=
  c == '\n' || c == '\r' || c == ',' || c == '=' || c == '#' || c == '[' || c == ']' ||
    c == '\x7b' || c == '\x7d'

/-- The quotation marks. -/
def isQuote (c : Char) : Bool := c == '\x22' || c == '\x27'

/-- The word that goes on behind the given blanks, and the rest. Blanks belong to the word if
it goes on behind them, and a quotation mark behind blanks begins something else. -/
def wordFrom (blanks : List Char) : List Char → List Char × List Char
  | [] => ([], blanks)
  | c :: rest =>
    if isBlank c then wordFrom (blanks ++ [c]) rest
    else if endsWord c || !blanks.isEmpty && isQuote c then ([], blanks ++ c :: rest)
    else
      let (word, behind) := wordFrom [] rest
      (blanks ++ c :: word, behind)

/-- The word at the beginning of a text, and the rest: all up to a character that ends it,
without the blanks before that. -/
def word (text : List Char) : List Char × List Char := wordFrom [] text

end Scalar

end BoundSql.Toml
