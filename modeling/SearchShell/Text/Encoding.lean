import SearchShell.Text.Utf8

/-!
# Encodings of Unicode text

UTF-16 and UTF-32 in either byte order, and how the encoding of a JSON text is
told from its first octets: by a byte order mark, or else by where the zero
octets are.  Lone surrogates are read as they are.
-/

set_option autoImplicit false

namespace SearchShell

inductive ByteOrder where
  | little
  | big
deriving DecidableEq

namespace ByteOrder

def suffix : ByteOrder → Text
  | little => text "-le"
  | big => text "-be"

def value (order : ByteOrder) (octets : Octets) : Nat :=
  let digits := match order with
    | little => octets.reverse
    | big => octets
  digits.foldl (fun n octet => n * 0x100 + octet.toNat) 0

end ByteOrder

/-- Adjacent halves of a surrogate pair become one code point. -/
def Text.joinSurrogates : Text → Text
  | [] => []
  | [c] => [c]
  | high :: low :: rest =>
      if high.isHighSurrogate && low.isLowSurrogate then
        CodePoint.ofSurrogates high low :: Text.joinSurrogates rest
      else high :: Text.joinSurrogates (low :: rest)

namespace Utf16

def units (order : ByteOrder) (start : Nat) : Octets → Except Undecodable Text
  | [] => .ok []
  | [octet] => .error ⟨text "utf-16" ++ order.suffix, .truncated, start, [octet]⟩
  | a :: b :: rest =>
      (units order (start + 2) rest).map
        (((CodePoint.ofNat? (order.value [a, b])).getD CodePoint.replacement) :: ·)

def decode (order : ByteOrder) (start : Nat) (octets : Octets) : Except Undecodable Text :=
  (units order start octets).map Text.joinSurrogates

end Utf16

namespace Utf32

def decode (order : ByteOrder) (start : Nat) : Octets → Except Undecodable Text
  | [] => .ok []
  | a :: b :: c :: d :: rest =>
      match CodePoint.ofNat? (order.value [a, b, c, d]) with
      | some point => (decode order (start + 4) rest).map (point :: ·)
      | none => .error ⟨text "utf-32" ++ order.suffix, .outOfRange, start, [a, b, c, d]⟩
  | rest => .error ⟨text "utf-32" ++ order.suffix, .truncated, start, rest⟩

end Utf32

inductive Encoding where
  | utf8
  | utf16 (order : ByteOrder)
  | utf32 (order : ByteOrder)
deriving DecidableEq

namespace Encoding

/-- The byte order marks, the longer ones before those that begin them. -/
def marks : List (Octets × Encoding) := [
  ([0x00, 0x00, 0xFE, 0xFF], utf32 .big), ([0xFF, 0xFE, 0x00, 0x00], utf32 .little),
  ([0xFE, 0xFF], utf16 .big), ([0xFF, 0xFE], utf16 .little), ([0xEF, 0xBB, 0xBF], utf8)]

/-- The encoding of a JSON text without a mark.  Its first code point is ASCII, so
the zero octets at the beginning tell the width and the order. -/
def ofZeros : Octets → Encoding
  | a :: b :: c :: d :: _ =>
      if a = 0 then if b = 0 then utf32 .big else utf16 .big
      else if b = 0 then if c = 0 && d = 0 then utf32 .little else utf16 .little
      else utf8
  | [a, b] => if a = 0 then utf16 .big else if b = 0 then utf16 .little else utf8
  | _ => utf8

def decode (start : Nat) (octets : Octets) : Encoding → Except Undecodable Text
  | utf8 => Utf8.decode octets
  | utf16 order => Utf16.decode order start octets
  | utf32 order => Utf32.decode order start octets

/-- Decodes the octets of a JSON text; a byte order mark is dropped.  Positions
count the mark, except in UTF-8. -/
def decodeDetected (octets : Octets) : Except Undecodable Text :=
  match marks.find? fun mark => mark.1.isPrefixOf octets with
  | some (mark, encoding) => encoding.decode mark.length (octets.drop mark.length)
  | none => (ofZeros octets).decode 0 octets

end Encoding

end SearchShell
