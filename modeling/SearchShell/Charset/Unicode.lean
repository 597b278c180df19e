import SearchShell.Charset.Basic
import SearchShell.Text.Punycode

/-!
# Lenient reading of Unicode

UTF-16 and UTF-32 with U+FFFD in the place of every broken unit, and the forms that
begin with a byte order mark.
-/

set_option autoImplicit false

namespace SearchShell

namespace Utf16

def unit (order : ByteOrder) (a b : UInt8) : CodePoint :=
  (CodePoint.ofNat? (order.value [a, b])).getD CodePoint.replacement

/-- Reads any octets.  A surrogate without its other half is broken by itself, except that
a high one with less than a unit after it takes what is left. -/
def decodeLenient (order : ByteOrder) : Octets → Text
  | [] => []
  | [_] => [CodePoint.replacement]
  | [a, b] =>
      let first := unit order a b
      [if first.isSurrogate then CodePoint.replacement else first]
  | [a, b, c] =>
      let first := unit order a b
      if first.isHighSurrogate then [CodePoint.replacement]
      else
        (if first.isSurrogate then CodePoint.replacement else first) ::
          decodeLenient order [c]
  | a :: b :: c :: d :: rest =>
      let first := unit order a b
      let second := unit order c d
      if first.isHighSurrogate && second.isLowSurrogate then
        CodePoint.ofSurrogates first second :: decodeLenient order rest
      else
        (if first.isSurrogate then CodePoint.replacement else first) ::
          decodeLenient order (c :: d :: rest)

end Utf16

namespace Utf32

def decodeLenient (order : ByteOrder) : Octets → Text
  | [] => []
  | a :: b :: c :: d :: rest =>
      let point := match CodePoint.ofNat? (order.value [a, b, c, d]) with
        | some point => if point.isSurrogate then CodePoint.replacement else point
        | none => CodePoint.replacement
      point :: decodeLenient order rest
  | _ => [CodePoint.replacement]

end Utf32

namespace Charset

/-- Reads octets in the order that the mark before them tells.  Without a mark only less
than one unit can be read. -/
def decodeMarked (family : String) (width : Nat) (marks : List (Octets × ByteOrder))
    (decode : ByteOrder → Octets → Text) (octets : Octets) : Except CharsetFault Text :=
  match marks.find? fun mark => mark.1.isPrefixOf octets with
  | some (mark, order) => .ok (decode order (octets.drop mark.length))
  | none =>
      if width ≤ octets.length then .error (.noMark (text family))
      else .ok (decode .little octets)

def decodeUtf16 (order : Option ByteOrder) (octets : Octets) : Except CharsetFault Text :=
  match order with
  | some order => .ok (Utf16.decodeLenient order octets)
  | none =>
      decodeMarked "UTF-16" 2 [([0xFE, 0xFF], .big), ([0xFF, 0xFE], .little)]
        Utf16.decodeLenient octets

def decodeUtf32 (order : Option ByteOrder) (octets : Octets) : Except CharsetFault Text :=
  match order with
  | some order => .ok (Utf32.decodeLenient order octets)
  | none =>
      decodeMarked "UTF-32" 4
        [([0x00, 0x00, 0xFE, 0xFF], .big), ([0xFF, 0xFE, 0x00, 0x00], .little)]
        Utf32.decodeLenient octets

def utf8Mark : Octets := [0xEF, 0xBB, 0xBF]

/-- Reads octets after the mark; a mere beginning of the mark stands for nothing either. -/
def decodeUtf8Marked (octets : Octets) : Text :=
  if utf8Mark.isPrefixOf octets then Utf8.decodeLenient (octets.drop utf8Mark.length)
  else if octets.isPrefixOf utf8Mark then []
  else Utf8.decodeLenient octets

end Charset

/-! ## UTF-7

ASCII octets stand for themselves, except that a plus sign begins a section of Base64,
which spells UTF-16 units.  A section ends at the first other octet; a hyphen that ends
it does not count.  What is broken reads as U+FFFD. -/

namespace Utf7

def digitValue? (octet : UInt8) : Option Nat :=
  let n := octet.toNat
  if 0x41 ≤ n && n ≤ 0x5A then some (n - 0x41)
  else if 0x61 ≤ n && n ≤ 0x7A then some (n - 0x47)
  else if 0x30 ≤ n && n ≤ 0x39 then some (n + 4)
  else if n = 0x2B then some 62
  else if n = 0x2F then some 63
  else none

/-- Inside a section: the bits that make up no unit yet, and a high surrogate that waits
for a low one. -/
structure Section where
  bits : Nat := 0
  value : Nat := 0
  waiting : Option CodePoint := none

namespace Section

def take (unit : CodePoint) (waiting : Option CodePoint) : Text × Option CodePoint :=
  match waiting with
  | some high =>
      if unit.isLowSurrogate then ([CodePoint.ofSurrogates high unit], none)
      else if unit.isHighSurrogate then ([high], some unit)
      else ([high, unit], none)
  | none => if unit.isHighSurrogate then ([], some unit) else ([unit], none)

def push (state : Section) (digit : Nat) : Text × Section :=
  let value := state.value * 64 + digit
  let bits := state.bits + 6
  if 16 ≤ bits then
    let scale := Nat.pow 2 (bits - 16)
    let unit := (CodePoint.ofNat? (value / scale)).getD CodePoint.replacement
    let (added, waiting) := take unit state.waiting
    (added, ⟨bits - 16, value % scale, waiting⟩)
  else ([], ⟨bits, value, state.waiting⟩)

def isPartial (state : Section) : Bool := 6 ≤ state.bits || (0 < state.bits && state.value ≠ 0)

end Section

/-- What the octet after a section adds to the text, and whether it still has to be read. -/
def leave (state : Section) (octet : UInt8) : Text × Bool :=
  if state.isPartial then ([CodePoint.replacement], false)
  else
    let left := if octet.toNat ≤ 0x7F && octet ≠ 0x2B then state.waiting.toList else []
    (left, octet ≠ 0x2D)

def direct (octet : UInt8) : CodePoint :=
  if octet.toNat ≤ 0x7F then Charset.samePoint octet else CodePoint.replacement

inductive Mode where
  | outside
  | begun
  | inside (state : Section)

def decodeFrom : Mode → Octets → Text
  | .outside, [] | .begun, [] => []
  | .inside state, [] =>
      if state.isPartial || state.waiting.isSome then [CodePoint.replacement] else []
  | .outside, octet :: rest =>
      if octet = 0x2B then decodeFrom .begun rest
      else direct octet :: decodeFrom .outside rest
  | .begun, octet :: rest =>
      if octet = 0x2D then CodePoint.ofChar '+' :: decodeFrom .outside rest
      else match digitValue? octet with
        | some digit =>
            let (added, state) := Section.push {} digit
            added ++ decodeFrom (.inside state) rest
        | none => CodePoint.replacement :: decodeFrom .outside rest
  | .inside state, octet :: rest => match digitValue? octet with
      | some digit =>
          let (added, state) := state.push digit
          added ++ decodeFrom (.inside state) rest
      | none =>
          let (left, again) := leave state octet
          left ++ (if again then [direct octet] else []) ++ decodeFrom .outside rest

def decode (octets : Octets) : Text := decodeFrom .outside octets

end Utf7

/-! ## Lenient reading of Punycode

Octets outside ASCII read as U+FFFD before the last hyphen and are refused after it.
Insertions end where they are broken. -/

namespace Charset

/-- The first octet outside ASCII, of octets of which `start` came before. -/
def firstOutsideAscii? (start : Nat) : Octets → Option CharsetFault
  | [] => none
  | octet :: rest =>
      if octet.toNat < 0x80 then firstOutsideAscii? (start + 1) rest
      else some (.notAscii octet start)

def asciiPoint (octet : UInt8) : CodePoint :=
  if octet.toNat < 0x80 then samePoint octet else CodePoint.replacement

def decodePunycode (octets : Octets) : Except CharsetFault Text :=
  let (base, insertions) := Punycode.split (octets.map samePoint)
  match firstOutsideAscii? 0 (octets.drop (octets.length - insertions.length)) with
  | some fault => .error fault
  | none =>
      .ok (Punycode.Reading.ofParts ((octets.take base.length).map asciiPoint) insertions).result

end Charset

end SearchShell
