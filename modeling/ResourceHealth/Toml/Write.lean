import ResourceHealth.Binary64.Text
import ResourceHealth.Panic
import ResourceHealth.Toml.Blank

/-!
# Written TOML

How strings and numbers are written.  TOML leaves open in which of its forms a string is
written, so what is written of a document takes the writer of its strings as a parameter.
The writers given here use the plainest form that can hold a string.  Which one that is
depends on the longest row of each quote in the string, and one of them counts the rows in
eight bits with a checked addition; nothing says that others do.

Main definitions:

- `NumberStyle.toml`: the style of numbers.
- `Toml.StringWriter`: what writes strings.
- `Toml.StringForm`: the forms of strings, and `Toml.StringForm.of`.
- `Toml.writePlain`: the writer that uses the plainest form.
- `Toml.writeString`: the one that also counts rows in eight bits.

Main results:

- Theorem `Toml.hasRow_iff`: a row in a text is a part of it.
-/

namespace ResourceHealth

/-- Numbers in TOML: never an exponent, always a fraction. -/
def NumberStyle.toml : NumberStyle :=
  { NumberStyle.plainPoint with nanText := ['n', 'a', 'n'] }

namespace Toml

/-- What writes strings: the written text, or the panic that writing ends in. -/
abbrev StringWriter : Type := List Char → Except Panic (List Char)

/-- How a string is written. -/
inductive StringForm where
  /-- Between double quotes, with escapes. -/
  | basic
  /-- Between single quotes, without escapes. -/
  | literal
  /-- Between triple double quotes, with escapes. -/
  | basicLines
  /-- Between triple single quotes, without escapes. -/
  | literalLines
deriving DecidableEq

/-- Whether a character needs an escape: a control character other than tab and line feed. -/
def needsEscape (c : Char) : Bool :=
  (c.toNat < 0x20 && c ≠ '\t' && c ≠ '\n') || c.toNat = 0x7f

/-- Whether a text holds a row of so many copies of a character. -/
def hasRow (c : Char) (length : Nat) : List Char → Bool
  | [] => length == 0
  | d :: rest => (List.replicate length c).isPrefixOf (d :: rest) || hasRow c length rest

/-- A row in a text is a part of it. -/
theorem hasRow_iff {c : Char} {length : Nat} {text : List Char} :
    hasRow c length text = true ↔ List.replicate length c <:+: text := by
  induction text with
  | nil => simp [hasRow]
  | cons d rest ih =>
    rw [hasRow, Bool.or_eq_true, List.isPrefixOf_iff_prefix, ih, List.infix_cons_iff]

/-- The form of a string: the first that can hold it. -/
def StringForm.of (text : List Char) : StringForm :=
  let control := text.any needsEscape
  let many := text.contains '\n'
  let backslash := text.contains '\\'
  if !control && !backslash && !text.contains '"' && !many then .basic
  else if !control && !text.contains '\'' && !many then .literal
  else if !control && !backslash && !hasRow '"' 3 text then .basicLines
  else if !control && !hasRow '\'' 3 text then .literalLines
  else if many then .basicLines
  else .basic

/-- How a character other than a double quote and a line feed is written with escapes. -/
def escaped (c : Char) : List Char :=
  match c with
  | '\x08' => ['\\', 'b']
  | '\t' => ['\\', 't']
  | '\x0c' => ['\\', 'f']
  | '\r' => ['\\', 'r']
  | '\\' => ['\\', '\\']
  | _ =>
    if needsEscape c then
      let digits := (Nat.toDigits 16 c.toNat).map Char.toUpper
      ['\\', 'u'] ++ List.replicate (4 - digits.length) '0' ++ digits
    else [c]

/-- A text with escapes for one line. -/
def escapedLine (text : List Char) : List Char :=
  text.flatMap fun c =>
    if c = '"' then ['\\', '"'] else if c = '\n' then ['\\', 'n'] else escaped c

/-- A text with escapes for many lines: of double quotes in a row every third is escaped, and
`row` is how many stand right before. -/
def escapedLines (row : Nat) : List Char → List Char
  | [] => []
  | c :: rest =>
    if c = '"' then
      if row = 2 then '\\' :: '"' :: escapedLines 0 rest
      else '"' :: escapedLines (row + 1) rest
    else if c = '\n' then '\n' :: escapedLines 0 rest
    else escaped c ++ escapedLines 0 rest

/-- The line feed behind opening quotes, which is there if the text has one too. -/
def openingLine (text : List Char) : List Char :=
  if text.contains '\n' then ['\n'] else []

/-- A string in a form. -/
def StringForm.write (form : StringForm) (text : List Char) : List Char :=
  match form with
  | .basic => '"' :: (escapedLine text ++ ['"'])
  | .literal => '\'' :: (text ++ ['\''])
  | .basicLines =>
    ['"', '"', '"'] ++ openingLine text ++ escapedLines 0 text ++ ['"', '"', '"']
  | .literalLines => ['\'', '\'', '\''] ++ openingLine text ++ text ++ ['\'', '\'', '\'']

/-- The writer that uses the form that suits a string. -/
def writePlain : StringWriter := fun text =>
  .ok ((StringForm.of text).write text)

/-- The length from which a row of quotes is too long to be counted in eight bits. -/
def rowLimit : Nat := Nat.pow 2 8

/-- The writer that uses the form that suits a string and counts its quotes in eight bits: when
these do not do, the checked addition is a panic. -/
def writeString : StringWriter := fun text =>
  if hasRow '\'' rowLimit text || hasRow '"' rowLimit text then .error .addOverflow
  else writePlain text

/-- A line that gives a value for a key. -/
def line (key : String) (value : List Char) : List Char :=
  key.toList ++ " = ".toList ++ value ++ ['\n']

end Toml

end ResourceHealth
