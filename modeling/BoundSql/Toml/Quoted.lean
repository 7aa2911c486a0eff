import BoundSql.Toml.Scalar

/-!
# TOML strings

The four kinds of quoted text: basic ones with escapes and literal ones without, each on
one line or on several. Every reader is given the text behind the opening quotation mark
and returns the content and the text behind the closing one.
-/

namespace BoundSql.Toml.Quoted

/-- The quotation mark of basic strings. -/
abbrev basicMark : Char := '\x22'

/-- The quotation mark of literal strings. -/
abbrev literalMark : Char := '\x27'

/-- Characters that stand for themselves on a line: all but control characters, where the
tab is allowed. -/
def isPlain (c : Char) : Bool := c == '\t' || (32 ≤ c.toNat && c.toNat != 127)

/-- The character of an escape of one letter. -/
def simpleEscape? : Char → Option Char
  | 'b' => some '\x08'
  | 't' => some '\t'
  | 'n' => some '\n'
  | 'f' => some '\x0c'
  | 'r' => some '\r'
  | 'e' => some '\x1b'
  | '\x22' => some '\x22'
  | '\\' => some '\\'
  | _ => none

/-- The character with a code point in hexadecimal digits. Surrogates are no characters. -/
def codePoint? (digits : List Char) : Option Char :=
  if digits.all Scalar.isHexDigit then
    let code := Scalar.natural 16 digits
    if code.isValidChar then some (Char.ofNat code) else none
  else none

/-- The content in front of a text that has been read further. -/
def prepend (c : Char) (read : List Char × List Char) : List Char × List Char :=
  (c :: read.1, read.2)

/-- A basic string on one line. -/
def basic? : List Char → Option (List Char × List Char)
  | [] => none
  | '\x22' :: rest => some ([], rest)
  | '\\' :: 'u' :: a :: b :: c :: d :: rest => do
    return prepend (← codePoint? [a, b, c, d]) (← basic? rest)
  | '\\' :: 'U' :: a :: b :: c :: d :: e :: f :: g :: h :: rest => do
    return prepend (← codePoint? [a, b, c, d, e, f, g, h]) (← basic? rest)
  | '\\' :: 'x' :: a :: b :: rest => do
    return prepend (← codePoint? [a, b]) (← basic? rest)
  | '\\' :: c :: rest => do return prepend (← simpleEscape? c) (← basic? rest)
  | c :: rest => if c ≠ '\\' && isPlain c then (basic? rest).map (prepend c) else none

/-- A literal string on one line. -/
def literal? : List Char → Option (List Char × List Char)
  | [] => none
  | '\x27' :: rest => some ([], rest)
  | c :: rest => if isPlain c then (literal? rest).map (prepend c) else none

/-- Whether only blanks stand before the end of the line. -/
def endsLine (text : List Char) : Bool :=
  match text.dropWhile fun c => c == ' ' || c == '\t' with
  | '\n' :: _ => true
  | '\r' :: '\n' :: _ => true
  | _ => false

/-- A basic string on several lines. After a backslash at the end of a line all blanks
and line ends are `skipping`. Up to two quotation marks may stand before the closing
ones. -/
def basicLines? (skipping : Bool) : List Char → Option (List Char × List Char)
  | [] => none
  | '\x22' :: '\x22' :: '\x22' :: '\x22' :: '\x22' :: rest => some ([basicMark, basicMark], rest)
  | '\x22' :: '\x22' :: '\x22' :: '\x22' :: rest => some ([basicMark], rest)
  | '\x22' :: '\x22' :: '\x22' :: rest => some ([], rest)
  | '\r' :: '\n' :: rest =>
    if skipping then basicLines? true rest else (basicLines? false rest).map (prepend '\n')
  | '\\' :: 'u' :: a :: b :: c :: d :: rest => do
    return prepend (← codePoint? [a, b, c, d]) (← basicLines? false rest)
  | '\\' :: 'U' :: a :: b :: c :: d :: e :: f :: g :: h :: rest => do
    return prepend (← codePoint? [a, b, c, d, e, f, g, h]) (← basicLines? false rest)
  | '\\' :: 'x' :: a :: b :: rest => do
    return prepend (← codePoint? [a, b]) (← basicLines? false rest)
  | '\\' :: c :: rest =>
    if endsLine (c :: rest) then basicLines? true (c :: rest)
    else do return prepend (← simpleEscape? c) (← basicLines? false rest)
  | c :: rest =>
    if skipping && (c == ' ' || c == '\t' || c == '\n') then basicLines? true rest
    else if c ≠ '\\' && (isPlain c || c == '\n') then (basicLines? false rest).map (prepend c)
    else none

/-- A literal string on several lines. -/
def literalLines? : List Char → Option (List Char × List Char)
  | [] => none
  | '\x27' :: '\x27' :: '\x27' :: '\x27' :: '\x27' :: rest =>
    some ([literalMark, literalMark], rest)
  | '\x27' :: '\x27' :: '\x27' :: '\x27' :: rest => some ([literalMark], rest)
  | '\x27' :: '\x27' :: '\x27' :: rest => some ([], rest)
  | '\r' :: '\n' :: rest => (literalLines? rest).map (prepend '\n')
  | c :: rest => if isPlain c || c == '\n' then (literalLines? rest).map (prepend c) else none

/-- The text without a line end at its beginning. -/
def trimLineEnd : List Char → List Char
  | '\n' :: rest => rest
  | '\r' :: '\n' :: rest => rest
  | text => text

/-- A quoted text of any kind, from its opening quotation mark on. -/
def read? : List Char → Option (List Char × List Char)
  | '\x22' :: '\x22' :: '\x22' :: rest => basicLines? false (trimLineEnd rest)
  | '\x22' :: rest => basic? rest
  | '\x27' :: '\x27' :: '\x27' :: rest => literalLines? (trimLineEnd rest)
  | '\x27' :: rest => literal? rest
  | _ => none

end BoundSql.Toml.Quoted
