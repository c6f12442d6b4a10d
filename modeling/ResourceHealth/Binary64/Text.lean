import ResourceHealth.Binary64.Decimal

/-!
# Written numbers

How a binary64 number is written is a rule for the digits, shortest or a fixed
number of places, and a record of conventions for the rest.

Main definitions:

- `NumberStyle`: the conventions of one written form, and `NumberStyle.write`.
- `NumberStyle.plain`, `NumberStyle.labelled`: the styles of messages and of field
  listings.
- `Binary64.fixed`: a fixed number of decimal places.
-/

namespace ResourceHealth

/-- The conventions of a written form that shows the shortest digits. -/
structure NumberStyle where
  /-- Which of two equally near decimals of one length is shown. -/
  tie : Tie
  /-- Whether a number `d.ddd * 10 ^ e` is written without an exponent. -/
  positional : Int → Bool
  /-- Whether `.0` is added to a positional form without a fraction. -/
  keepsPoint : Bool
  /-- Whether an exponent that is not negative has a plus sign. -/
  plusSign : Bool
  /-- The text of NaN. -/
  nanText : List Char
  /-- The text of an infinity; a negative one has a minus sign before it. -/
  infinityText : List Char

/-- The sign of a negative number. -/
def signText (negative : Bool) : List Char :=
  if negative then ['-'] else []

/-- Digits with the decimal point after the first `point` of them, zeros filling what is
missing on either side. -/
def positionalText (keepsPoint : Bool) (digits : List Char) (point : Int) : List Char :=
  match point with
  | .ofNat whole =>
    if whole = 0 then '0' :: '.' :: digits
    else if whole < digits.length then digits.take whole ++ '.' :: digits.drop whole
    else digits ++ List.replicate (whole - digits.length) '0' ++
      if keepsPoint then ['.', '0'] else []
  | .negSucc gap => '0' :: '.' :: (List.replicate (gap + 1) '0' ++ digits)

/-- Digits with the point after the first one and a decimal exponent. -/
def exponentText (plusSign : Bool) (digits : List Char) (exponent : Int) : List Char :=
  let mantissa := match digits with
    | [] => ['0']
    | [d] => [d]
    | d :: rest => d :: '.' :: rest
  let exponentDigits := match exponent with
    | .ofNat e => (if plusSign then ['+'] else []) ++ Nat.toDigits 10 e
    | .negSucc e => '-' :: Nat.toDigits 10 (e + 1)
  mantissa ++ 'e' :: exponentDigits

namespace NumberStyle

/-- The text of a finite magnitude. -/
def writeRank (style : NumberStyle) (rank : Nat) : List Char :=
  if rank = 0 then if style.keepsPoint then ['0', '.', '0'] else ['0']
  else
    let d := Binary64.shortestDecimal style.tie rank
    if style.positional (d.point - 1) then
      positionalText style.keepsPoint d.significant d.point
    else exponentText style.plusSign d.significant (d.point - 1)

/-- The text of a number. -/
def write (style : NumberStyle) : Binary64 → List Char
  | .nan => style.nanText
  | .signed negative rank =>
    signText negative ++
      if rank.val = infinityRank then style.infinityText else style.writeRank rank.val

/-- Numbers in messages: never an exponent, no fraction on an integer. -/
def plain : NumberStyle where
  tie := .away
  positional := fun _ => true
  keepsPoint := false
  plusSign := false
  nanText := ['N', 'a', 'N']
  infinityText := ['i', 'n', 'f']

/-- Numbers named as floating point in messages: never an exponent, always a fraction. -/
def plainPoint : NumberStyle :=
  { plain with keepsPoint := true }

/-- Numbers in listings of fields: an exponent below `1e-4` and from `1e16` on. -/
def labelled : NumberStyle :=
  { plainPoint with positional := fun e => -4 ≤ e ∧ e ≤ 15 }

end NumberStyle

namespace Binary64

/-- The number with a fixed number of decimal places: the exact value is rounded, a half
going to the even last digit, and a negative sign is kept even before zero. -/
def fixed (places : Nat) : Binary64 → String
  | nan => "NaN"
  | signed negative rank =>
    let text :=
      if rank.val = infinityRank then ['i', 'n', 'f']
      else
        let tenths := divideToEven (scaled rank.val * Nat.pow 10 places) unitsPerOne
        let digits := Nat.toDigits 10 tenths
        let padded := List.replicate (places + 1 - digits.length) '0' ++ digits
        let whole := padded.length - places
        padded.take whole ++ if places = 0 then [] else '.' :: padded.drop whole
    String.ofList (signText negative ++ text)

/-- The number's text in a listing of fields. -/
def labelledText (x : Binary64) : String :=
  String.ofList (NumberStyle.labelled.write x)

end Binary64

end ResourceHealth
