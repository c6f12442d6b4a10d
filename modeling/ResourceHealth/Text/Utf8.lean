/-!
# UTF-8

Octets that stand for text.  A file is text only if all its octets are well
formed; a path is shown even if they are not, with a replacement character for
every longest start of a character that is broken off.

Main definitions:

- `Utf8.take`: one character, or one broken start, from the front.
- `Utf8.decode?`, `Utf8.decodeLossy`: all of them.
- `Utf8.encode`: the octets of a text.

Main results:

- Theorem `Utf8.length_take_lt`: taking a character uses up at least one octet.
-/

namespace ResourceHealth

namespace Utf8

/-- What a first octet announces: the leading bits of the character, and the range in which
each further octet lies.  Octets that start no character announce nothing. -/
def announced (first : UInt8) : Option (Nat × List (UInt8 × UInt8)) :=
  let tail : UInt8 × UInt8 := (0x80, 0xbf)
  if first < 0x80 then some (first.toNat, [])
  else if first < 0xc2 then none
  else if first < 0xe0 then some (first.toNat - 0xc0, [tail])
  else if first = 0xe0 then some (0, [(0xa0, 0xbf), tail])
  else if first = 0xed then some (0xd, [(0x80, 0x9f), tail])
  else if first < 0xf0 then some (first.toNat - 0xe0, [tail, tail])
  else if first = 0xf0 then some (0, [(0x90, 0xbf), tail, tail])
  else if first < 0xf4 then some (first.toNat - 0xf0, [tail, tail, tail])
  else if first = 0xf4 then some (4, [(0x80, 0x8f), tail, tail])
  else none

/-- Takes further octets as long as they lie in their ranges, six bits from each; without a
number when one of them is missing. -/
def takeTail : Nat → List (UInt8 × UInt8) → List UInt8 → Option Nat × List UInt8
  | bits, [], rest => (some bits, rest)
  | _, _ :: _, [] => (none, [])
  | bits, (low, high) :: ranges, octet :: rest =>
    if low ≤ octet ∧ octet ≤ high then
      takeTail (bits * 64 + octet.toNat % 64) ranges rest
    else (none, octet :: rest)

/-- One character from the front, or none for a longest broken start of one; and the octets
that remain. -/
def take (first : UInt8) (rest : List UInt8) : Option Char × List UInt8 :=
  match announced first with
  | none => (none, rest)
  | some (bits, ranges) =>
    let taken := takeTail bits ranges rest
    (taken.1.map Char.ofNat, taken.2)

/-- Taking the further octets of a character does not lengthen what remains. -/
theorem length_takeTail_le (bits : Nat) (ranges : List (UInt8 × UInt8)) (rest : List UInt8) :
    (takeTail bits ranges rest).2.length ≤ rest.length := by
  induction ranges generalizing bits rest with
  | nil => exact Nat.le_refl _
  | cons range ranges ih =>
    cases rest with
    | nil => exact Nat.le_refl _
    | cons octet rest =>
      unfold takeTail
      split
      · exact Nat.le_trans (ih _ _) (Nat.le_succ _)
      · exact Nat.le_refl _

/-- Taking a character uses up at least one octet. -/
theorem length_take_lt (first : UInt8) (rest : List UInt8) :
    (take first rest).2.length < (first :: rest).length := by
  unfold take
  split
  · exact Nat.lt_succ_self _
  · exact Nat.lt_succ_of_le (length_takeTail_le _ _ _)

/-- A stretch of octets: a character, or the octets of a broken start. -/
inductive Chunk where
  /-- A well-formed character. -/
  | char (c : Char)
  /-- The octets of a longest broken start. -/
  | broken (octets : List UInt8)

/-- Octets cut into characters and broken starts. -/
def chunks : List UInt8 → List Chunk
  | [] => []
  | first :: rest =>
    let taken := take first rest
    match taken.1 with
    | some c => .char c :: chunks taken.2
    | none =>
      .broken ((first :: rest).take ((first :: rest).length - taken.2.length)) ::
        chunks taken.2
termination_by octets => octets.length
decreasing_by
  · exact length_take_lt first rest
  · exact length_take_lt first rest

/-- The character of a chunk, if it is one. -/
def Chunk.char? : Chunk → Option Char
  | .char c => some c
  | .broken _ => none

/-- The text of octets that are all well formed. -/
def decode? (octets : List UInt8) : Option (List Char) :=
  (chunks octets).mapM Chunk.char?

/-- The character that stands for a broken start. -/
def replacement : Char := Char.ofNat 0xfffd

/-- The text of octets, with a replacement character for every broken start. -/
def decodeLossy (octets : List UInt8) : List Char :=
  (chunks octets).map fun chunk => chunk.char?.getD replacement

/-- The octets of a text. -/
def encode (text : List Char) : List UInt8 :=
  text.flatMap String.utf8EncodeChar

end Utf8

end ResourceHealth
