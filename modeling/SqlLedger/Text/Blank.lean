/-
Blanks of all scripts.

Some formats drop blanks around a text whatever script they come from: the characters that Unicode
lists as white space, control characters for lines and columns among them.
-/

namespace SqlLedger.Text

/-- The characters that Unicode lists as white space. -/
def isWhiteSpace (char : Char) : Bool :=
  let code := char.toNat
  (0x9 ≤ code && code ≤ 0xD) || code = 0x20 || code = 0x85 || code = 0xA0 || code = 0x1680 ||
    (0x2000 ≤ code && code ≤ 0x200A) || code = 0x2028 || code = 0x2029 || code = 0x202F ||
    code = 0x205F || code = 0x3000

/-- A text without the blanks at its end. -/
def trimEnd (chars : List Char) : List Char :=
  (chars.reverse.dropWhile isWhiteSpace).reverse

/-- A text without the blanks at its ends. -/
def trim (chars : List Char) : List Char :=
  trimEnd (chars.dropWhile isWhiteSpace)

end SqlLedger.Text
