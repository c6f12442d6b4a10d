import ResourceHealth.Binary64.Decimal
import ResourceHealth.Counter
import ResourceHealth.Toml.Strings

/-!
# Scalars in TOML

Booleans, integers, numbers with a fraction or an exponent, dates with times, and
strings.

Main definitions:

- `Toml.Scalar`: the scalars.
- `Toml.dateTime?`, `Toml.integer?`, `Toml.float?`: each kind at the front of a text.
- `Toml.scalar?`: any kind.
-/

namespace ResourceHealth

namespace Toml

/-- A scalar.  Nothing asks which moment a date stands for. -/
inductive Scalar where
  | string (text : List Char)
  | integer (value : Int)
  | float (value : Binary64)
  | boolean (value : Bool)
  | dateTime
deriving DecidableEq

/-! ## Digits -/

/-- Digits from the front of a text, and what follows.  A single underscore may stand between
two digits and is left out. -/
def digitRun (isDigit : Char → Bool) : List Char → List Char × List Char
  | [] => ([], [])
  | '_' :: d :: rest =>
    if isDigit d then
      let run := digitRun isDigit rest
      (d :: run.1, run.2)
    else ([], '_' :: d :: rest)
  | c :: rest =>
    if isDigit c then
      let run := digitRun isDigit rest
      (c :: run.1, run.2)
    else ([], c :: rest)

/-- At least one digit from the front of a text, and what follows. -/
def digits? (isDigit : Char → Bool) : List Char → Option (List Char × List Char)
  | [] => none
  | c :: rest => if isDigit c then some (digitRun isDigit (c :: rest)) else none

/-- A sign at the front of a text, whether it is a minus, and what follows. -/
def sign : List Char → Bool × List Char
  | '+' :: rest => (false, rest)
  | '-' :: rest => (true, rest)
  | text => (false, text)

/-- The digits of a decimal integer, and what follows: a zero, or digits that do not start with
one. -/
def wholeDigits? : List Char → Option (List Char × List Char)
  | '0' :: rest => some (['0'], rest)
  | text => digits? Char.isDigit text

/-! ## Integers -/

/-- The integers of 64 bits with a sign. -/
def inRange (value : Int) : Bool :=
  -(Nat.pow 2 63 : Int) ≤ value && value < (Nat.pow 2 63 : Int)

/-- An integer if it is in range. -/
def boundedInteger (value : Int) : Option Scalar :=
  if inRange value then some (.integer value) else none

/-- Whether a character is a digit of a base up to sixteen. -/
def isDigitOf (base : Nat) (c : Char) : Bool :=
  match Json.Token.hexDigit? c with
  | some n => n < base
  | none => false

/-- The number of digits in a base. -/
def numberOf (base : Nat) (digits : List Char) : Nat :=
  digits.foldl (fun n c => n * base + (Json.Token.hexDigit? c).getD 0) 0

/-- An integer in another base, past its mark. -/
def basedInteger? (base : Nat) (text : List Char) : Option (Scalar × List Char) :=
  match digits? (isDigitOf base) text with
  | none => none
  | some (digits, rest) =>
    (boundedInteger (numberOf base digits)).map fun scalar => (scalar, rest)

/-- The integer at the front of a text, and what follows. -/
def integer? : List Char → Option (Scalar × List Char)
  | '0' :: 'x' :: rest => basedInteger? 16 rest
  | '0' :: 'o' :: rest => basedInteger? 8 rest
  | '0' :: 'b' :: rest => basedInteger? 2 rest
  | text =>
    let signed := sign text
    match wholeDigits? signed.2 with
    | none => none
    | some (digits, rest) =>
      let size : Int := Counter.ofDigits digits
      (boundedInteger (if signed.1 then -size else size)).map fun scalar => (scalar, rest)

/-! ## Numbers with a fraction or an exponent -/

/-- The digits of a fraction, nothing if there is none, and what follows. -/
def fractionDigits? : List Char → Option (List Char × List Char)
  | '.' :: rest => digits? Char.isDigit rest
  | _ => none

/-- The exponent, nothing if there is none, and what follows. -/
def exponent? : List Char → Option (Int × List Char)
  | c :: rest =>
    if c = 'e' ∨ c = 'E' then
      let signed := sign rest
      (digits? Char.isDigit signed.2).map fun found =>
        let size : Int := Counter.ofDigits found.1
        (if signed.1 then -size else size, found.2)
    else none
  | [] => none

/-- A number that is not positive infinity: a literal that is too large is refused. -/
def boundedFloat (value : Binary64) : Option Scalar :=
  if value = .infinity then none else some (.float value)

/-- The number of digits, fraction and exponent. -/
def floatOf (negative : Bool) (whole fraction : List Char) (exponent : Int) : Binary64 :=
  Decimal.toBinary64 negative
    ⟨Counter.ofDigits (whole ++ fraction), exponent - fraction.length⟩

/-- The words for infinity and for what is no number, and what follows. -/
def specialFloat? (negative : Bool) : List Char → Option (Scalar × List Char)
  | 'i' :: 'n' :: 'f' :: rest =>
    some (.float (if negative then -.infinity else .infinity), rest)
  | 'n' :: 'a' :: 'n' :: rest => some (.float .nan, rest)
  | _ => none

/-- The number with a fraction or an exponent at the front of a text, and what follows. -/
def float? (text : List Char) : Option (Scalar × List Char) :=
  let signed := sign text
  match wholeDigits? signed.2 with
  | none => specialFloat? signed.1 signed.2
  | some (whole, afterWhole) =>
    match fractionDigits? afterWhole with
    | some (fraction, afterFraction) =>
      let power := (exponent? afterFraction).getD (0, afterFraction)
      (boundedFloat (floatOf signed.1 whole fraction power.1)).map (·, power.2)
    | none =>
      match exponent? afterWhole with
      | some (power, rest) => (boundedFloat (floatOf signed.1 whole [] power)).map (·, rest)
      | none => none

/-! ## Dates and times -/

/-- A number of exactly `count` digits within bounds, and what follows. -/
def fixedNumber? (count low high : Nat) (text : List Char) : Option (Nat × List Char) :=
  let digits := text.take count
  let n := Counter.ofDigits digits
  if digits.length = count ∧ digits.all Char.isDigit ∧ low ≤ n ∧ n ≤ high then
    some (n, text.drop count)
  else none

/-- What follows a character at the front of a text. -/
def past? (c : Char) : List Char → Option (List Char)
  | [] => none
  | d :: rest => if c = d then some rest else none

/-- Whether a year has a leap day. -/
def isLeapYear (year : Nat) : Bool :=
  year % 4 = 0 && (year % 100 ≠ 0 || year % 400 = 0)

/-- How many days a month has. -/
def daysIn (year month : Nat) : Nat :=
  if month = 2 then if isLeapYear year then 29 else 28
  else if month = 4 ∨ month = 6 ∨ month = 9 ∨ month = 11 then 30
  else 31

/-- What follows a date. -/
def pastDate? (text : List Char) : Option (List Char) := do
  let (year, rest) ← fixedNumber? 4 0 9999 text
  let (month, rest) ← fixedNumber? 2 1 12 (← past? '-' rest)
  let (_, rest) ← fixedNumber? 2 1 (daysIn year month) (← past? '-' rest)
  return rest

/-- What follows the fraction of a second, if there is one. -/
def pastFraction (text : List Char) : List Char :=
  match text with
  | '.' :: d :: rest => if d.isDigit then rest.dropWhile Char.isDigit else text
  | _ => text

/-- What follows a time. -/
def pastTime? (text : List Char) : Option (List Char) := do
  let (_, rest) ← fixedNumber? 2 0 23 text
  let (_, rest) ← fixedNumber? 2 0 59 (← past? ':' rest)
  let (_, rest) ← fixedNumber? 2 0 60 (← past? ':' rest)
  return pastFraction rest

/-- What follows an offset from universal time, if there is one. -/
def pastOffset? (text : List Char) : Option (List Char) :=
  match text with
  | c :: rest =>
    if c = 'Z' ∨ c = 'z' then some rest
    else if c = '+' ∨ c = '-' then do
      let (_, rest) ← fixedNumber? 2 0 23 rest
      let (_, rest) ← fixedNumber? 2 0 59 (← past? ':' rest)
      return rest
    else some text
  | [] => some []

/-- Whether a character may stand between a date and a time. -/
def isDelimiter (c : Char) : Bool :=
  c == 'T' || c == 't' || c == ' '

/-- What follows a date with or without a time, or a time. -/
def dateTime? (text : List Char) : Option (List Char) :=
  match pastDate? text with
  | none => pastTime? text
  | some afterDate =>
    match afterDate with
    | c :: rest =>
      if isDelimiter c then
        match pastTime? rest with
        | some afterTime => pastOffset? afterTime
        | none => some afterDate
      else some afterDate
    | [] => some []

/-! ## Any scalar -/

/-- The scalar at the front of a text, and what follows. -/
def scalar? (text : List Char) : Option (Scalar × List Char) :=
  match text with
  | 't' :: 'r' :: 'u' :: 'e' :: rest => some (.boolean true, rest)
  | 'f' :: 'a' :: 'l' :: 's' :: 'e' :: rest => some (.boolean false, rest)
  | '"' :: _ => (string? text).map fun found => (.string found.1, found.2)
  | '\'' :: _ => (string? text).map fun found => (.string found.1, found.2)
  | _ =>
    match dateTime? text with
    | some rest => some (.dateTime, rest)
    | none => (float? text).or (integer? text)

end Toml

end ResourceHealth
