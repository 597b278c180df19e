import SearchShell.Charset.Basic

/-!
# Escapes

Octets that stand for the code points with their numbers, between escapes that begin
with a backslash.  What is broken reads as U+FFFD; no character is known by name.
-/

set_option autoImplicit false

namespace SearchShell

namespace Escapes

def hexValue? (octet : UInt8) : Option Nat := (Charset.samePoint octet).hexValue?

/-- Exactly `count` hexadecimal digits of a code point.  If one is missing, what follows the
digits that are there is left. -/
def readNumber (value : Nat) : (count : Nat) → Octets → CodePoint × Octets
  | 0, rest => ((CodePoint.ofNat? value).getD CodePoint.replacement, rest)
  | _ + 1, [] => (CodePoint.replacement, [])
  | count + 1, octet :: rest => match hexValue? octet with
      | some digit => readNumber (value * 16 + digit) count rest
      | none => (CodePoint.replacement, octet :: rest)

def octalValue? (octet : UInt8) : Option Nat :=
  if 0x30 ≤ octet.toNat && octet.toNat ≤ 0x37 then some (octet.toNat - 0x30) else none

def readOctal (value : Nat) : (count : Nat) → Octets → Nat × Octets
  | 0, rest => (value, rest)
  | _ + 1, [] => (value, [])
  | count + 1, octet :: rest => match octalValue? octet with
      | some digit => readOctal (value * 8 + digit) count rest
      | none => (value, octet :: rest)

def letters : List (Char × Nat) := [
  ('\\', 0x5C), ('\'', 0x27), ('"', 0x22), ('b', 0x08), ('f', 0x0C), ('t', 0x09), ('n', 0x0A),
  ('r', 0x0D), ('v', 0x0B), ('a', 0x07)]

/-- The name of a character between braces, which is never known.  An empty name leaves its
closing brace. -/
def readName (rest : Octets) : Text × Octets :=
  match rest with
  | [] => ([CodePoint.replacement], [])
  | opening :: more =>
      if opening = 0x7B then
        let name := more.takeWhile fun octet => octet ≠ 0x7D
        let after := more.drop name.length
        ([CodePoint.replacement], if name.isEmpty then after else after.drop 1)
      else ([CodePoint.replacement], rest)

def digitsAfter? (raw : Bool) (letter : UInt8) : Option Nat :=
  if letter = 0x75 then some 4
  else if letter = 0x55 then some 8
  else if letter = 0x78 && !raw then some 2
  else none

def readLetter (letter : UInt8) (rest : Octets) : Text × Octets :=
  match octalValue? letter with
  | some digit =>
      let (value, rest) := readOctal digit 2 rest
      ([(CodePoint.ofNat? value).getD CodePoint.replacement], rest)
  | none =>
      if letter = 0x0A then ([], rest)
      else if letter = 0x4E then readName rest
      else match letters.find? fun known => known.1.toNat = letter.toNat with
        | some (_, value) => ([(CodePoint.ofNat? value).getD CodePoint.replacement], rest)
        | none => (['\\', Charset.samePoint letter], rest)

def readEscape (raw : Bool) : Octets → Text × Octets
  | [] => (if raw then ['\\'] else [CodePoint.replacement], [])
  | letter :: rest => match digitsAfter? raw letter with
      | some count =>
          let (point, rest) := readNumber 0 count rest
          ([point], rest)
      | none =>
          if raw then (['\\', Charset.samePoint letter], rest) else readLetter letter rest

def decodeWithin (raw : Bool) : Nat → Octets → Text
  | 0, _ => []
  | _, [] => []
  | fuel + 1, octet :: rest =>
      if octet = 0x5C then
        let (points, rest) := readEscape raw rest
        points ++ decodeWithin raw fuel rest
      else Charset.samePoint octet :: decodeWithin raw fuel rest

def decode (raw : Bool) (octets : Octets) : Text := decodeWithin raw octets.length octets

end Escapes

end SearchShell
