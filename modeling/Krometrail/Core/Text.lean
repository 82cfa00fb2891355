import Mathlib

/-!
# Text

The few string operations of the Rust standard library that the program's checks rest on (`trim`, `is_empty`
after a `trim`, `to_ascii_lowercase`, `starts_with`), on the list of code points of a string.
-/

namespace Krometrail

/-- `char::is_whitespace`: the code points with the Unicode property `White_Space`. -/
def isWhitespace (c : Char) : Bool :=
  let n := c.toNat
  (0x09 ≤ n && n ≤ 0x0d) || n = 0x20 || n = 0x85 || n = 0xa0 || n = 0x1680 || (0x2000 ≤ n && n ≤ 0x200a) ||
    n = 0x2028 || n = 0x2029 || n = 0x202f || n = 0x205f || n = 0x3000

/-- `str::trim`, as code points. -/
def trim (text : String) : List Char :=
  ((text.toList.dropWhile isWhitespace).reverse.dropWhile isWhitespace).reverse

/-- `text.trim().is_empty()`. -/
def isBlank (text : String) : Bool := (trim text).isEmpty

/-- `text.trim().to_ascii_lowercase().starts_with(start)`. -/
def trimmedLowercaseStartsWith (text start : String) : Bool :=
  start.toList.isPrefixOf ((trim text).map Char.toLower)

end Krometrail
