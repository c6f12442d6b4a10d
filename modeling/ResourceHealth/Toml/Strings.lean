import ResourceHealth.Json.Token
import ResourceHealth.Toml.Blank

/-!
# Strings in TOML

A string stands between single or double quotes, on one line or, with the quotes
tripled, on many.  Between double quotes a backslash starts an escape.

Main definitions:

- `Toml.basicBody`, `Toml.literalBody`: the two forms on one line, past the opening quote.
- `Toml.basicLines`, `Toml.literalLines`: the two forms on many lines, past the opening.
- `Toml.string?`: a string at the front of a text.
-/

namespace ResourceHealth

namespace Toml

/-! ## Escapes -/

/-- The characters that have an escape of one letter. -/
def shortEscapes : List (Char × Char) := [
  ('b', '\x08'), ('t', '\t'), ('n', '\n'), ('f', '\x0c'), ('r', '\r'), ('"', '"'),
  ('\\', '\\')]

/-- The character that hexadecimal digits stand for. -/
def hexChar? (digits : List Char) : Option Char :=
  match Json.Token.hexNumber? digits with
  | some n => if n.isValidChar then some (Char.ofNat n) else none
  | none => none

/-- A character put before what the rest of a string comes to. -/
def before (c : Option Char) (rest : Option (List Char × List Char)) :
    Option (List Char × List Char) :=
  match c, rest with
  | some c, some (text, after) => some (c :: text, after)
  | _, _ => none

/-! ## Strings on one line -/

/-- The string up to the closing double quote, and what follows. -/
def basicBody : List Char → Option (List Char × List Char)
  | [] => none
  | '"' :: rest => some ([], rest)
  | '\\' :: 'u' :: a :: b :: c :: d :: rest =>
    before (hexChar? [a, b, c, d]) (basicBody rest)
  | '\\' :: 'U' :: a :: b :: c :: d :: e :: f :: g :: h :: rest =>
    before (hexChar? [a, b, c, d, e, f, g, h]) (basicBody rest)
  | '\\' :: letter :: rest => before (shortEscapes.lookup letter) (basicBody rest)
  | c :: rest => before (if isPlain c ∧ c ≠ '\\' then some c else none) (basicBody rest)

/-- The string up to the closing single quote, and what follows. -/
def literalBody : List Char → Option (List Char × List Char)
  | [] => none
  | '\'' :: rest => some ([], rest)
  | c :: rest => before (if isPlain c then some c else none) (literalBody rest)

/-! ## Strings on many lines -/

/-- Whether nothing but blanks follows on the line. -/
def endsLine (text : List Char) : Bool :=
  (lineEnd? (skipBlanks text)).isSome

/-- What three quotes close: up to two more quotes right after them belong to the string. -/
def closing (quote : Char) (text : List Char) : List Char × List Char :=
  match text with
  | c :: d :: rest =>
    if c = quote then
      if d = quote then ([quote, quote], rest) else ([quote], d :: rest)
    else ([], text)
  | [c] => if c = quote then ([quote], []) else ([], text)
  | [] => ([], [])

/-- The string up to three closing double quotes, and what follows.  After a backslash at the
end of a line, `trimming` is set: all blanks and line ends up to the next character are left
out. -/
def basicLines (trimming : Bool) : List Char → Option (List Char × List Char)
  | [] => none
  | '"' :: '"' :: '"' :: rest => some (closing '"' rest)
  | '\r' :: '\n' :: rest =>
    if trimming then basicLines true rest else before (some '\n') (basicLines false rest)
  | '\n' :: rest =>
    if trimming then basicLines true rest else before (some '\n') (basicLines false rest)
  | '\\' :: 'u' :: a :: b :: c :: d :: rest =>
    before (hexChar? [a, b, c, d]) (basicLines false rest)
  | '\\' :: 'U' :: a :: b :: c :: d :: e :: f :: g :: h :: rest =>
    before (hexChar? [a, b, c, d, e, f, g, h]) (basicLines false rest)
  | '\\' :: letter :: rest =>
    if endsLine (letter :: rest) then basicLines true (letter :: rest)
    else before (shortEscapes.lookup letter) (basicLines false rest)
  | c :: rest =>
    if trimming ∧ isBlank c then basicLines true rest
    else before (if isPlain c ∧ c ≠ '\\' then some c else none) (basicLines false rest)

/-- The string up to three closing single quotes, and what follows. -/
def literalLines : List Char → Option (List Char × List Char)
  | [] => none
  | '\'' :: '\'' :: '\'' :: rest => some (closing '\'' rest)
  | '\r' :: '\n' :: rest => before (some '\n') (literalLines rest)
  | c :: rest =>
    before (if isPlain c ∨ c = '\n' then some c else none) (literalLines rest)

/-- The text past a line end right behind the opening quotes. -/
def pastFirstLineEnd (text : List Char) : List Char :=
  (lineEnd? text).getD text

/-- The string at the front of a text, and what follows. -/
def string? : List Char → Option (List Char × List Char)
  | '"' :: '"' :: '"' :: rest => basicLines false (pastFirstLineEnd rest)
  | '"' :: rest => basicBody rest
  | '\'' :: '\'' :: '\'' :: rest => literalLines (pastFirstLineEnd rest)
  | '\'' :: rest => literalBody rest
  | _ => none

end Toml

end ResourceHealth
