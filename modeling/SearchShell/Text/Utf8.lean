import SearchShell.Number.Integer
import SearchShell.Text.Quoted

/-!
# UTF-8

A sequence of octets is cut into pieces: the code points it spells and, where it
spells none, the longest broken beginnings of one.  Strict decoding stops at the
first broken piece, lenient decoding puts U+FFFD in its place.
-/

set_option autoImplicit false

namespace SearchShell

abbrev Octets := List UInt8

inductive OctetDefect where
  | badStart
  | badContinuation
  | endsEarly
  | truncated
  | outOfRange
deriving DecidableEq

structure Undecodable where
  encoding : Text
  defect : OctetDefect
  start : Nat
  broken : Octets
deriving DecidableEq

inductive TextTarget where
  | utf8
  | ascii
  /-- The name of a file, in which some surrogates stand for octets that are no UTF-8. -/
  | fileName
deriving DecidableEq

namespace TextTarget

def name : TextTarget → Text
  | utf8 | fileName => text "utf-8"
  | ascii => text "ascii"

def lacks (c : CodePoint) : TextTarget → Bool
  | utf8 | fileName => c.isSurrogate
  | ascii => !c.isAscii

def refuses (c : CodePoint) (target : TextTarget) : Bool :=
  target.lacks c && !(target = fileName && 0xDC80 ≤ c.val && c.val ≤ 0xDCFF)

def reason : TextTarget → Text
  | utf8 | fileName => text "surrogates not allowed"
  | ascii => text "ordinal not in range(128)"

end TextTarget

structure Unencodable where
  target : TextTarget
  start : Nat
  more : Nat
  first : CodePoint
deriving DecidableEq

namespace OctetDefect

def message : OctetDefect → Text
  | badStart => text "invalid start byte"
  | badContinuation => text "invalid continuation byte"
  | endsEarly => text "unexpected end of data"
  | truncated => text "truncated data"
  | outOfRange => text "code point not in range(0x110000)"

end OctetDefect

namespace Undecodable

def message (fault : Undecodable) : Text :=
  let octets := match fault.broken with
    | [octet] =>
        text "byte 0x" ++ Text.hexDigits 2 octet.toNat ++ text " in position " ++
          Text.ofNat fault.start
    | broken =>
        text "bytes in position " ++ Text.ofNat fault.start ++ text "-" ++
          Text.ofNat (fault.start + broken.length - 1)
  text "'" ++ fault.encoding ++ text "' codec can't decode " ++ octets ++ text ": " ++
    fault.defect.message

end Undecodable

namespace Unencodable

def message (fault : Unencodable) : Text :=
  let points :=
    if fault.more = 0 then
      text "character '" ++ Text.quotedPoint '\'' fault.first ++ text "' in position " ++
        Text.ofNat fault.start
    else
      text "characters in position " ++ Text.ofNat fault.start ++ text "-" ++
        Text.ofNat (fault.start + fault.more)
  text "'" ++ fault.target.name ++ text "' codec can't encode " ++ points ++ text ": " ++
    fault.target.reason

/-- The first run in a text, of which `start` code points came before. -/
def find? (target : TextTarget) (start : Nat) : Text → Option Unencodable
  | [] => none
  | c :: rest =>
      if target.refuses c then
        some ⟨target, start, (rest.takeWhile fun c => target.lacks c).length, c⟩
      else find? target (start + 1) rest

end Unencodable

namespace Utf8

/-- The octets of one code point; a surrogate is spelled like its neighbours. -/
def encodePoint (c : CodePoint) : Octets :=
  if c.val < 0x80 then [UInt8.ofNat c.val]
  else if c.val < 0x800 then
    [UInt8.ofNat (0xC0 + c.val / 0x40), UInt8.ofNat (0x80 + c.val % 0x40)]
  else if c.val < 0x10000 then
    [UInt8.ofNat (0xE0 + c.val / 0x1000), UInt8.ofNat (0x80 + c.val / 0x40 % 0x40),
      UInt8.ofNat (0x80 + c.val % 0x40)]
  else
    [UInt8.ofNat (0xF0 + c.val / 0x40000), UInt8.ofNat (0x80 + c.val / 0x1000 % 0x40),
      UInt8.ofNat (0x80 + c.val / 0x40 % 0x40), UInt8.ofNat (0x80 + c.val % 0x40)]

def spell (s : Text) : Octets := s.flatMap encodePoint

/-- The octets of a text, which must hold no surrogate. -/
def encode (s : Text) : Except Unencodable Octets :=
  match Unencodable.find? .utf8 0 s with
  | some fault => .error fault
  | none => .ok (spell s)

/-- A code point or the longest broken beginning of one. -/
inductive Piece where
  | point (c : CodePoint)
  | broken (defect : OctetDefect) (octets : Octets)
deriving DecidableEq

namespace Piece

def length : Piece → Nat
  | point c => (encodePoint c).length
  | broken _ octets => octets.length

def orReplacement : Piece → CodePoint
  | point c => c
  | broken _ _ => CodePoint.replacement

end Piece

/-- Takes the octets that continue a code point.  The first must lie between the
bounds; the value so far and the octets taken so far are given. -/
def continuation (value : Nat) (taken : Octets) :
    (missing low high : Nat) → Octets → Piece × Octets
  | 0, _, _, rest => (.point ((CodePoint.ofNat? value).getD CodePoint.replacement), rest)
  | _ + 1, _, _, [] => (.broken .endsEarly taken, [])
  | missing + 1, low, high, octet :: rest =>
      if low ≤ octet.toNat && octet.toNat ≤ high then
        continuation (value * 0x40 + octet.toNat % 0x40) (taken ++ [octet]) missing 0x80 0xBF rest
      else (.broken .badContinuation taken, octet :: rest)

def surrogate? : Octets → Option (CodePoint × Octets)
  | second :: third :: rest =>
      if 0xA0 ≤ second.toNat && second.toNat ≤ 0xBF && 0x80 ≤ third.toNat && third.toNat ≤ 0xBF then
        (CodePoint.ofNat? (0xD000 + (second.toNat - 0x80) * 0x40 + (third.toNat - 0x80))).map
          fun c => (c, rest)
      else none
  | _ => none

/-- The piece that begins with an octet.  Surrogates count as code points on demand. -/
def pieceFrom (surrogates : Bool) (first : UInt8) (rest : Octets) : Piece × Octets :=
  let lead := first.toNat
  if lead < 0x80 then continuation lead [first] 0 0 0 rest
  else if lead < 0xC2 then (.broken .badStart [first], rest)
  else if lead < 0xE0 then continuation (lead - 0xC0) [first] 1 0x80 0xBF rest
  else if lead = 0xE0 then continuation 0 [first] 2 0xA0 0xBF rest
  else if lead = 0xED then
    match if surrogates then surrogate? rest else none with
    | some (c, rest) => (.point c, rest)
    | none => continuation 0xD [first] 2 0x80 0x9F rest
  else if lead < 0xF0 then continuation (lead - 0xE0) [first] 2 0x80 0xBF rest
  else if lead = 0xF0 then continuation 0 [first] 3 0x90 0xBF rest
  else if lead < 0xF4 then continuation (lead - 0xF0) [first] 3 0x80 0xBF rest
  else if lead = 0xF4 then continuation 4 [first] 3 0x80 0x8F rest
  else (.broken .badStart [first], rest)

def piecesWithin (surrogates : Bool) : Nat → Octets → List Piece
  | 0, _ => []
  | _, [] => []
  | fuel + 1, first :: rest =>
      let (piece, rest) := pieceFrom surrogates first rest
      piece :: piecesWithin surrogates fuel rest

def pieces (surrogates : Bool) (octets : Octets) : List Piece :=
  piecesWithin surrogates octets.length octets

def wholePoints (start : Nat) : List Piece → Except Undecodable Text
  | [] => .ok []
  | .broken defect octets :: _ => .error ⟨text "utf-8", defect, start, octets⟩
  | .point c :: rest => (wholePoints (start + (Piece.point c).length) rest).map (c :: ·)

def decode (octets : Octets) : Except Undecodable Text := wholePoints 0 (pieces true octets)

def decode? (octets : Octets) : Option Text := (wholePoints 0 (pieces false octets)).toOption

/-- Reads any octets, with U+FFFD for every broken piece. -/
def decodeLenient (octets : Octets) : Text := (pieces false octets).map Piece.orReplacement

end Utf8

end SearchShell
