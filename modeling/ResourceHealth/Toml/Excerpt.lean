/-!
# Excerpts

A message about a place in a document shows its line with a mark below the place.

Main definitions:

- `Excerpt`: a line with a marked stretch.
- `Excerpt.around`: the excerpt of a stretch of a document.
- `Excerpt.shown`: the lines that messages show.
-/

namespace ResourceHealth

namespace Toml

/-- A stretch of a document, measured from the end of the document. -/
structure Span where
  /-- How many characters the document has from the start of the stretch on. -/
  fromStart : Nat
  /-- How many characters the document has behind the stretch. -/
  behind : Nat
deriving DecidableEq

/-- A line of a document with a marked stretch. -/
structure Excerpt where
  /-- The number of the line, counted from zero. -/
  line : Nat
  /-- How many characters of the line stand before the mark. -/
  column : Nat
  /-- The text of the line. -/
  text : List Char
  /-- How many columns are marked. -/
  marks : Nat
deriving DecidableEq

/-- How many octets a text has. -/
def octetCount (text : List Char) : Nat :=
  text.foldr (fun c octets => c.utf8Size + octets) 0

namespace Excerpt

/-- The excerpt of a stretch: the line where it starts, marked for as many columns as the
stretch has octets, up to the end of the line but at least once. -/
def around (document : List Char) (span : Span) : Excerpt :=
  let start := document.length - span.fromStart
  let before := document.take start
  let onward := document.drop start
  let stretch := onward.take (span.fromStart - span.behind)
  let lineStart := (before.reverse.takeWhile (· ≠ '\n')).reverse
  let lineRest := onward.takeWhile (· ≠ '\n')
  let text := lineStart ++ lineRest
  { line := before.count '\n'
    column := lineStart.length
    text
    marks := max 1 (min (octetCount stretch) (octetCount text - lineStart.length)) }

/-- The lines that messages show. -/
def shown (excerpt : Excerpt) : String :=
  let number := s!"{excerpt.line + 1}"
  let gutter := "".pushn ' ' (number.length + 1)
  s!"TOML parse error at line {number}, column {excerpt.column + 1}\n" ++
    gutter ++ "|\n" ++
    number ++ " | " ++ String.ofList excerpt.text ++ "\n" ++
    gutter ++ "| " ++ "".pushn ' ' excerpt.column ++ "".pushn '^' excerpt.marks ++ "\n"

end Excerpt

end Toml

end ResourceHealth
