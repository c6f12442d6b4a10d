/-!
# Blanks and words

Text that the kernel writes is cut at white space, in the sense of the Unicode
property `White_Space`.

Main definitions:

- `isBlank`: the property.
- `trim`: a text without the blanks at its ends.
- `pieces`, `words`: a text cut at separators, and at blanks without empty pieces.
-/

namespace ResourceHealth

/-- The Unicode property `White_Space`. -/
def isBlank (c : Char) : Bool :=
  let n := c.toNat
  (9 ≤ n && n ≤ 13) || n == 0x20 || n == 0x85 || n == 0xa0 || n == 0x1680 ||
    (0x2000 ≤ n && n ≤ 0x200a) || n == 0x2028 || n == 0x2029 || n == 0x202f ||
    n == 0x205f || n == 0x3000

/-! ## Trimming -/

/-- A text without its leading blanks. -/
def trimStart (text : List Char) : List Char :=
  text.dropWhile isBlank

/-- A text without its trailing blanks. -/
def trimEnd (text : List Char) : List Char :=
  (text.reverse.dropWhile isBlank).reverse

/-- A text without the blanks at its ends. -/
def trim (text : List Char) : List Char :=
  trimEnd (trimStart text)

/-! ## Words -/

/-- A text cut at every separator: one more piece than there are separators. -/
def pieces (isSeparator : Char → Bool) : List Char → List (List Char)
  | [] => [[]]
  | c :: rest =>
    if isSeparator c then [] :: pieces isSeparator rest
    else match pieces isSeparator rest with
      | first :: others => (c :: first) :: others
      | [] => [[c]]

/-- The words of a text: its longest stretches without blanks. -/
def words (text : List Char) : List (List Char) :=
  (pieces isBlank text).filter (· ≠ [])

end ResourceHealth
