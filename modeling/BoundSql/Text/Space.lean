import BoundSql.Text.Ranges

/-!
# White space

The characters with the Unicode property White_Space: the blanks and line ends of ASCII,
and nineteen characters beyond it. The byte order mark is none of them; it is left out at
the beginning of a text.
-/

namespace BoundSql.Text

/-- The code points of white space. -/
def spaceRanges : Ranges :=
  [(0x9, 0xD), (0x20, 0x20), (0x85, 0x85), (0xA0, 0xA0), (0x1680, 0x1680), (0x2000, 0x200A),
   (0x2028, 0x2029), (0x202F, 0x202F), (0x205F, 0x205F), (0x3000, 0x3000)]

/-- Whether a character is white space. -/
def isSpace (c : Char) : Bool := spaceRanges.contains c

/-- The text without a byte order mark at its beginning. -/
def withoutMark : List Char → List Char
  | '\ufeff' :: rest => rest
  | text => text

end BoundSql.Text
