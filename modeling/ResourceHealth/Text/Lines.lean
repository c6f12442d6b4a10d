import ResourceHealth.Text.Blank

/-!
# Lines

A line ends at a line feed, and a carriage return right before that line feed is
part of the ending.  What follows the last line feed is a line only if it is not
empty, and then keeps all its characters.

Main definitions:

- `lines`: the lines of a text without their endings.
-/

namespace ResourceHealth

/-- A line without the carriage return that closes it. -/
def dropReturn (line : List Char) : List Char :=
  if line.getLast? = some '\r' then line.dropLast else line

/-- The lines that pieces between line feeds stand for. -/
def closeLines : List (List Char) → List (List Char)
  | [] => []
  | [last] => if last = [] then [] else [last]
  | line :: next :: rest => dropReturn line :: closeLines (next :: rest)

/-- The lines of a text without their endings. -/
def lines (text : List Char) : List (List Char) :=
  closeLines (pieces (· == '\n') text)

end ResourceHealth
