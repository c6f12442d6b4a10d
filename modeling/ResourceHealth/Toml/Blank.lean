/-!
# Blanks, comments and line ends in TOML

Main definitions:

- `Toml.skipBlanks`: past blanks and tabs.
- `Toml.lineEnd?`: past a line feed, which a carriage return may precede.
- `Toml.skipComment`: past a comment.
- `Toml.closeLine`: past all that may follow on a line.
- `Toml.skipLayout`: past blanks, comments and line ends.
-/

namespace ResourceHealth

namespace Toml

/-- Whether a character is a blank of TOML. -/
def isBlank (c : Char) : Bool :=
  c == ' ' || c == '\t'

/-- Whether a character may stand in comments and strings as it is: a tab, or anything that is
no control character. -/
def isPlain (c : Char) : Bool :=
  c == '\t' || (0x20 ≤ c.toNat && c.toNat ≠ 0x7f)

/-- Whether a character may stand in a key without quotes. -/
def isBareKey (c : Char) : Bool :=
  c.isAlphanum || c == '-' || c == '_'

/-- The text past blanks and tabs. -/
def skipBlanks (text : List Char) : List Char :=
  text.dropWhile isBlank

/-- The text past the line end at its front. -/
def lineEnd? : List Char → Option (List Char)
  | '\n' :: rest => some rest
  | '\r' :: '\n' :: rest => some rest
  | _ => none

/-- The text past the comment at its front, if there is one. -/
def skipComment : List Char → List Char
  | '#' :: rest => rest.dropWhile isPlain
  | text => text

/-- The text past the blanks, the comment and the line end that may follow on a line; the end
of the text is as good as a line end. -/
def closeLine (text : List Char) : Option (List Char) :=
  match skipComment (skipBlanks text) with
  | [] => some []
  | rest => lineEnd? rest

/-- The text past blanks, line ends and comments.  Comments have to end with their line. -/
def skipLayout : List Char → List Char
  | [] => []
  | '#' :: rest => skipLine rest
  | '\r' :: '\n' :: rest => skipLayout rest
  | c :: rest => if isBlank c ∨ c = '\n' then skipLayout rest else c :: rest
where
  /-- The text past the rest of a comment and what follows it. -/
  skipLine : List Char → List Char
  | [] => []
  | '\n' :: rest => skipLayout rest
  | '\r' :: '\n' :: rest => skipLayout rest
  | c :: rest => if isPlain c then skipLine rest else c :: rest

end Toml

end ResourceHealth
