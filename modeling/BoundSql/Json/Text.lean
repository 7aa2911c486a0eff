import BoundSql.Decimal.Shortest

/-!
# JSON text

How strings, numbers, lists and objects are written in compact JSON: no blank between
tokens, every character above U+001F as itself except the quotation mark and the
backslash, and numbers with a fraction or an exponent whenever they are not integers.
-/

namespace BoundSql.Json

/-- The lower-case hexadecimal digit of a number below sixteen. -/
def hexDigit (n : Nat) : Char := (Nat.toDigits 16 n).headD '0'

/-- The written form of one character inside a string. -/
def escaped (c : Char) : List Char :=
  if c = '\x22' then ['\\', '\x22']
  else if c = '\\' then ['\\', '\\']
  else if c = '\x08' then ['\\', 'b']
  else if c = '\x0c' then ['\\', 'f']
  else if c = '\n' then ['\\', 'n']
  else if c = '\r' then ['\\', 'r']
  else if c = '\t' then ['\\', 't']
  else if c.toNat < 32 then ['\\', 'u', '0', '0', hexDigit (c.toNat / 16), hexDigit (c.toNat % 16)]
  else [c]

/-- A string in quotation marks. -/
def quoted (s : String) : String :=
  String.ofList ('\x22' :: s.toList.flatMap escaped ++ ['\x22'])

/-- A list of written values in brackets. -/
def list (items : List String) : String :=
  "[" ++ String.intercalate "," items ++ "]"

/-- An object of written values, its keys in the given order. -/
def object (members : List (String × String)) : String :=
  "\x7b" ++ String.intercalate "," (members.map fun (key, value) => quoted key ++ ":" ++ value) ++ "\x7d"

/-- The written form of a truth value. -/
def boolean (b : Bool) : String := if b then "true" else "false"

/-- How a decimal is laid out: the orders written without an exponent. -/
structure NumberLayout where
  /-- The least order written positionally. -/
  least : Int
  /-- The greatest order written positionally. -/
  greatest : Int

/-- Numbers from 0.00001 up to but not including 10^16 are written without an exponent. -/
def numberLayout : NumberLayout := ⟨-5, 15⟩

/-- A run of zeros. -/
def zeros (count : Nat) : String := String.ofList (List.replicate count '0')

/-- A decimal without an exponent; a whole number ends in `.0`. -/
def positional (d : Decimal) : String :=
  let digits := toString d.digits
  if 0 ≤ d.exponent then digits ++ zeros d.exponent.toNat ++ ".0"
  else
    let places := (-d.exponent).toNat
    if places < digits.length then
      String.ofList (digits.toList.take (digits.length - places)) ++ "." ++
        String.ofList (digits.toList.drop (digits.length - places))
    else "0." ++ zeros (places - digits.length) ++ digits

/-- A decimal with one digit before the point and an exponent whose sign is always written. -/
def scientific (d : Decimal) : String :=
  let mantissa := match (toString d.digits).toList with
    | [] => ""
    | [digit] => String.ofList [digit]
    | digit :: rest => String.ofList (digit :: '.' :: rest)
  let sign := if d.order < 0 then "-" else "+"
  mantissa ++ "e" ++ sign ++ toString d.order.natAbs

/-- The written form of a decimal in a layout. -/
def decimal (layout : NumberLayout) (d : Decimal) : String :=
  if layout.least ≤ d.order ∧ d.order ≤ layout.greatest then positional d else scientific d

/-- A floating-point number by its shortest decimal. What is no finite number has no
JSON form and is written as null. -/
def number (x : Binary64) : String :=
  if x.isFinite then (if x.isNegative then "-" else "") ++ decimal numberLayout (Decimal.shortest x)
  else "null"

end BoundSql.Json
