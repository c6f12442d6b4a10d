import ResourceHealth.Binary64.Decimal
import ResourceHealth.Counter

/-!
# JSON tokens

A JSON text is cut into tokens from the left.  Where no token stands the cutting
ends with a mark, so that what comes before it can still be looked at.

Main definitions:

- `Json.Numeral`, `Json.Token`: the tokens.
- `Json.Token.scan`: the tokens of a text.

Main results:

- Theorem `Json.Token.length_take_lt`: each token uses up part of the text.
-/

namespace ResourceHealth

namespace Json

/-- A number as it is understood: whole numbers are kept exactly when they fit in 64 bits. -/
inductive Numeral where
  /-- A whole number that is not negative. -/
  | counter (value : Nat)
  /-- A whole number below zero, by its magnitude. -/
  | negative (magnitude : Nat)
  /-- Any other number; infinite if it is too large. -/
  | binary (value : Binary64)
deriving DecidableEq

/-- A token of a JSON text. -/
inductive Token where
  | openArray
  | closeArray
  | openObject
  | closeObject
  | comma
  | colon
  | null
  | boolean (value : Bool)
  | number (value : Numeral)
  /-- A string; without a text if its escapes do not make one up. -/
  | string (text : Option (List Char))
  /-- No token stands here. -/
  | stray
deriving DecidableEq

namespace Token

/-! ## Strings -/

/-- A part of a string: a character, or a 16-bit unit given by its number. -/
inductive Part where
  | char (c : Char)
  | unit (n : Nat)

/-- The value of a hexadecimal digit. -/
def hexDigit? (c : Char) : Option Nat :=
  if c.isDigit then some (c.toNat - '0'.toNat)
  else if 'a' ≤ c ∧ c ≤ 'f' then some (c.toNat - 'a'.toNat + 10)
  else if 'A' ≤ c ∧ c ≤ 'F' then some (c.toNat - 'A'.toNat + 10)
  else none

/-- The number that hexadecimal digits stand for. -/
def hexNumber? (digits : List Char) : Option Nat :=
  digits.foldlM (fun n c => (hexDigit? c).map (n * 16 + ·)) 0

/-- The characters that have an escape of one letter. -/
def shortEscapes : List (Char × Char) := [
  ('"', '"'), ('\\', '\\'), ('/', '/'), ('b', '\x08'), ('f', '\x0c'), ('n', '\n'),
  ('r', '\r'), ('t', '\t')]

/-- The parts of a string up to its closing quote, and what follows; nothing if the string
does not end or holds what no string may. -/
def stringParts : List Char → Option (List Part × List Char)
  | [] => none
  | '"' :: rest => some ([], rest)
  | '\\' :: 'u' :: a :: b :: c :: d :: rest =>
    match hexNumber? [a, b, c, d], stringParts rest with
    | some n, some (parts, after) => some (.unit n :: parts, after)
    | _, _ => none
  | '\\' :: letter :: rest =>
    match shortEscapes.lookup letter, stringParts rest with
    | some c, some (parts, after) => some (.char c :: parts, after)
    | _, _ => none
  | c :: rest =>
    if c.toNat < 0x20 ∨ c = '\\' then none
    else match stringParts rest with
      | some (parts, after) => some (.char c :: parts, after)
      | none => none

/-- Whether a unit is the first or the second half of a pair. -/
def isHighUnit (n : Nat) : Bool := 0xd800 ≤ n && n < 0xdc00

/-- Whether a unit is the second half of a pair. -/
def isLowUnit (n : Nat) : Bool := 0xdc00 ≤ n && n < 0xe000

/-- The text of the parts of a string, if every half of a pair has its other half. -/
def joinParts : List Part → Option (List Char)
  | [] => some []
  | .char c :: rest => (joinParts rest).map (c :: ·)
  | .unit n :: .unit m :: rest =>
    if isHighUnit n then
      if isLowUnit m then
        (joinParts rest).map
          (Char.ofNat (0x10000 + (n - 0xd800) * 0x400 + (m - 0xdc00)) :: ·)
      else none
    else if isLowUnit n then none
    else (joinParts (.unit m :: rest)).map (Char.ofNat n :: ·)
  | .unit n :: rest =>
    if isHighUnit n ∨ isLowUnit n then none
    else (joinParts rest).map (Char.ofNat n :: ·)

/-! ## Numbers -/

/-- Digits after a mark that needs some: the digits and what follows. -/
def fraction (text : List Char) : Option (List Char × List Char) :=
  match text with
  | '.' :: rest =>
    let digits := rest.takeWhile Char.isDigit
    if digits = [] then none else some (digits, rest.dropWhile Char.isDigit)
  | _ => some ([], text)

/-- The sign of an exponent and what follows. -/
def exponentSign : List Char → Bool × List Char
  | '+' :: rest => (false, rest)
  | '-' :: rest => (true, rest)
  | rest => (false, rest)

/-- The exponent of a number, nothing if it has none, and what follows. -/
def exponent (text : List Char) : Option (Option Int × List Char) :=
  match text with
  | c :: rest =>
    if c = 'e' ∨ c = 'E' then
      let signed := exponentSign rest
      let digits := signed.2.takeWhile Char.isDigit
      if digits = [] then none
      else
        let size : Int := Counter.ofDigits digits
        some (some (if signed.1 then -size else size), signed.2.dropWhile Char.isDigit)
    else some (none, text)
  | [] => some (none, [])

/-- The number of a sign, digits and, if there are any, a fraction and an exponent. -/
def numeral (negative : Bool) (whole fractionDigits : List Char) (power : Option Int) :
    Numeral :=
  let n := Counter.ofDigits whole
  let exactly : Binary64 := Decimal.toBinary64 negative
    ⟨Counter.ofDigits (whole ++ fractionDigits), power.getD 0 - fractionDigits.length⟩
  if fractionDigits ≠ [] ∨ power.isSome then .binary exactly
  else if negative then
    if 0 < n ∧ n ≤ Nat.pow 2 63 then .negative n else .binary exactly
  else if n < Counter.limit then .counter n
  else .binary exactly

/-- The number at the front of a text without its sign, and what follows. -/
def takeNumber (negative : Bool) (text : List Char) : Option (Numeral × List Char) :=
  let whole := text.takeWhile Char.isDigit
  if whole = [] ∨ (whole.head? = some '0' ∧ 1 < whole.length) then none
  else
    match fraction (text.dropWhile Char.isDigit) with
    | none => none
    | some (fractionDigits, afterFraction) =>
      match exponent afterFraction with
      | none => none
      | some (power, after) => some (numeral negative whole fractionDigits power, after)

/-! ## Cutting -/

/-- Whether a character may stand between tokens. -/
def isGap (c : Char) : Bool :=
  c == ' ' || c == '\n' || c == '\t' || c == '\r'

/-- The words that are tokens. -/
def literals : List (List Char × Token) := [
  ("null".toList, .null), ("true".toList, .boolean true), ("false".toList, .boolean false)]

/-- The token of a word at the front of a text, and what follows. -/
def takeLiteral (text : List Char) : Option (Token × List Char) :=
  (literals.find? fun literal => literal.1.isPrefixOf text).map
    fun literal => (literal.2, text.drop literal.1.length)

/-- The token at the front of a text that starts with `c`, and what follows; nothing after the
mark that no token stands here. -/
def take (c : Char) (rest : List Char) : Token × List Char :=
  match c with
  | '[' => (.openArray, rest)
  | ']' => (.closeArray, rest)
  | '\x7b' => (.openObject, rest)
  | '\x7d' => (.closeObject, rest)
  | ',' => (.comma, rest)
  | ':' => (.colon, rest)
  | '"' =>
    match stringParts rest with
    | some (parts, after) => (.string (joinParts parts), after)
    | none => (.stray, [])
  | '-' =>
    match takeNumber true rest with
    | some (n, after) => (.number n, after)
    | none => (.stray, [])
  | _ =>
    match takeNumber false (c :: rest), takeLiteral (c :: rest) with
    | some (n, after), _ => (.number n, after)
    | none, some found => found
    | none, none => (.stray, [])

/-- Reading a string consumes at least its closing quote, which ends the scan. -/
theorem length_stringParts_lt {text after : List Char} {parts : List Part}
    (h : stringParts text = some (parts, after)) : after.length < text.length := by
  fun_induction stringParts text generalizing parts after with
  | case1 => cases h
  | case2 rest => cases h; exact Nat.lt_succ_self _
  | case3 a b c d rest n parts' after' hrest hn ih =>
    have := ih hrest
    cases h
    simp only [List.length_cons]
    omega
  | case4 => cases h
  | case5 letter rest hu found parts' after' hrest hletter ih =>
    have := ih hrest
    cases h
    simp only [List.length_cons]
    omega
  | case6 => cases h
  | case7 => cases h
  | case8 c rest hq hu hl hc parts' after' hrest ih =>
    have := ih hrest
    cases h
    simp only [List.length_cons]
    omega
  | case9 => cases h

theorem length_dropWhile_le (p : Char → Bool) (text : List Char) :
    (text.dropWhile p).length ≤ text.length :=
  (List.dropWhile_sublist p).length_le

/-- Reading a fraction does not lengthen a text. -/
theorem length_fraction_le {text digits after : List Char}
    (h : fraction text = some (digits, after)) : after.length ≤ text.length := by
  unfold fraction at h
  split at h
  · simp only at h
    split at h
    · cases h
    · cases h
      exact Nat.le_trans (length_dropWhile_le _ _) (Nat.le_succ _)
  · cases h
    exact Nat.le_refl _

theorem length_exponentSign_le (text : List Char) :
    (exponentSign text).2.length ≤ text.length := by
  unfold exponentSign
  split <;> simp

/-- Reading an exponent does not lengthen a text. -/
theorem length_exponent_le {text after : List Char} {power : Option Int}
    (h : exponent text = some (power, after)) : after.length ≤ text.length := by
  unfold exponent at h
  split at h
  · split at h
    · simp only at h
      split at h
      · cases h
      · cases h
        exact Nat.le_trans (length_dropWhile_le _ _)
          (Nat.le_trans (length_exponentSign_le _) (Nat.le_succ _))
    · cases h
      exact Nat.le_refl _
  · cases h
    exact Nat.le_refl _

/-- A number uses up at least one digit. -/
theorem length_takeNumber_lt {negative : Bool} {text after : List Char} {n : Numeral}
    (h : takeNumber negative text = some (n, after)) : after.length < text.length := by
  unfold takeNumber at h
  simp only at h
  split at h
  · cases h
  · rename_i hwhole
    have hne : 0 < (text.takeWhile Char.isDigit).length := by
      refine List.length_pos_iff.mpr fun h0 => hwhole (Or.inl h0)
    have hsplit := congrArg List.length
      (List.takeWhile_append_dropWhile (p := Char.isDigit) (l := text))
    rw [List.length_append] at hsplit
    split at h
    · cases h
    · rename_i hfraction
      have hf := length_fraction_le hfraction
      split at h
      · cases h
      · rename_i hexponent
        have he := length_exponent_le hexponent
        cases h
        omega

/-- A word that is a token uses up its characters. -/
theorem length_takeLiteral_lt {text after : List Char} {token : Token}
    (h : takeLiteral text = some (token, after)) : after.length < text.length := by
  unfold takeLiteral at h
  obtain ⟨literal, hfind, heq⟩ := Option.map_eq_some_iff.mp h
  have hmem := List.mem_of_find?_eq_some hfind
  have hprefix := List.find?_some hfind
  simp only [List.isPrefixOf_iff_prefix] at hprefix
  have hlength := hprefix.length_le
  have hpos : 0 < literal.1.length := by
    simp only [literals, List.mem_cons, List.not_mem_nil, or_false] at hmem
    rcases hmem with rfl | rfl | rfl <;> decide
  cases heq
  simp only [List.length_drop]
  omega

/-- Each token uses up part of the text. -/
theorem length_take_lt (c : Char) (rest : List Char) :
    (take c rest).2.length < (c :: rest).length := by
  unfold take
  split <;> try exact Nat.lt_succ_self _
  · split
    · rename_i hparts
      exact Nat.lt_succ_of_lt (length_stringParts_lt hparts)
    · exact Nat.succ_pos _
  · split
    · rename_i hnumber
      exact Nat.lt_succ_of_lt (length_takeNumber_lt hnumber)
    · exact Nat.succ_pos _
  · split
    · rename_i hnumber
      exact length_takeNumber_lt hnumber
    · rename_i hliteral
      exact length_takeLiteral_lt hliteral
    · exact Nat.succ_pos _

/-- The tokens of a text.  A mark that no token stands somewhere comes last. -/
def scan : List Char → List Token
  | [] => []
  | c :: rest =>
    if isGap c then scan rest
    else (take c rest).1 :: scan (take c rest).2
termination_by text => text.length
decreasing_by
  · exact Nat.lt_succ_self _
  · exact length_take_lt c rest

end Token

end Json

end ResourceHealth
