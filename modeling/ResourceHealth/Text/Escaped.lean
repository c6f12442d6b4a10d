import ResourceHealth.Text.Extending
import ResourceHealth.Text.Utf8

/-!
# Quoted text

Messages and listings of fields show text between double quotes, so that it stays
on one line and every character can be told.

Main definitions:

- `escapedChar`: how one character is shown.
- `quoted`: a text between quotes.
- `quotedOctets`: octets that may not be text, between quotes.
-/

namespace ResourceHealth

/-- The hexadecimal digits of a number, in lower case. -/
def hexDigits (n : Nat) : List Char :=
  Nat.toDigits 16 n

/-- How a character is shown between quotes: a short escape where there is one, a numeric
escape when it is unprintable or would join its neighbour, and otherwise itself. -/
def escapedChar (c : Char) : List Char :=
  match c with
  | '\x00' => ['\\', '0']
  | '\t' => ['\\', 't']
  | '\r' => ['\\', 'r']
  | '\n' => ['\\', 'n']
  | '\\' => ['\\', '\\']
  | '"' => ['\\', '"']
  | _ =>
    if isExtending c || !isPrintable c then
      ['\\', 'u', '\x7b'] ++ hexDigits c.toNat ++ ['\x7d']
    else [c]

/-- A text between quotes. -/
def quoted (text : List Char) : String :=
  String.ofList ('"' :: (text.flatMap escapedChar ++ ['"']))

/-- How an octet that is not part of a character is shown. -/
def escapedOctet (octet : UInt8) : List Char :=
  let digits := (hexDigits octet.toNat).map Char.toUpper
  ['\\', 'x'] ++ List.replicate (2 - digits.length) '0' ++ digits

/-- How a chunk of octets is shown. -/
def escapedChunk : Utf8.Chunk → List Char
  | .char c => escapedChar c
  | .broken octets => octets.flatMap escapedOctet

/-- Octets between quotes, those that form no character by their numbers. -/
def quotedOctets (octets : List UInt8) : String :=
  String.ofList ('"' :: ((Utf8.chunks octets).flatMap escapedChunk ++ ['"']))

end ResourceHealth
