import SearchShell.Charset.Basic
import SearchShell.Charset.Plane.Big5
import SearchShell.Charset.Plane.Gb18030
import SearchShell.Charset.Plane.Gb2312
import SearchShell.Charset.Plane.Hkscs

/-!
# Chinese charsets

ASCII octets stand for themselves, and two others, or in GB 18030 four, stand for what the
planes hold.  In HZ all octets are those of ASCII, and escapes tell which of them are meant
in pairs.
-/

set_option autoImplicit false

namespace SearchShell

def Reading.afterAscii (more : UInt8 → Octets → Reading Unit) (_ : Unit) :
    Octets → Reading Unit
  | [] => .unfinished
  | octet :: rest => if octet < 0x80 then .one (Charset.samePoint octet) () else more octet rest

/-- Reads two octets, of which the first is broken if they stand for nothing together. -/
def Reading.pair (text? : Nat → Nat → Option Text) (first : UInt8) : Octets → Reading Unit
  | [] => .unfinished
  | second :: _ => .ofText? 2 1 () (text? first.toNat second.toNat)

/-- The text for two octets of a plane whose rows and cells begin at 0xA1. -/
def Plane.highText? (plane : Plane) (first second : Nat) : Option Text :=
  plane.text? (first - 0xA0) (second - 0xA0)

namespace Chinese

/-! ## GBK -/

def cell? (second : Nat) : Option Nat :=
  if 0x40 ≤ second && second ≤ 0x7E then some (second - 0x40)
  else if 0x80 ≤ second && second ≤ 0xFE then some (second - 0x41)
  else none

/-- Hanzi that are in Unicode again under other numbers. -/
def compatibleHanzi : List String := [
  "\uf92c\uf979\uf995\uf9e7\uf9f1\ufa0c\ufa0d\ufa0e\ufa0f\ufa11\ufa13\ufa14\ufa18\ufa1f",
  "\ufa20\ufa21\ufa23\ufa24\ufa27\ufa28\ufa29"]

/-- The hanzi of Unicode 1 that GB 2312 does not hold, and the compatible ones. -/
def furtherHanzi : Array CodePoint :=
  Plane.gb2312.missing 0x4E00 0x9FA5 ++ (compatibleHanzi.flatMap text).toArray

/-- The place of two octets among the further hanzi: first come whole rows, and then the
first halves of the rows from 0xAA on. -/
def hanziPlace? (row cell : Nat) : Option Nat :=
  if 0x81 ≤ row && row ≤ 0xA0 then some ((row - 0x81) * 190 + cell)
  else if 0xAA ≤ row && row ≤ 0xFE && cell < 96 then some (6080 + (row - 0xAA) * 96 + cell)
  else none

def gbkText? (first second : Nat) : Option Text :=
  match cell? second with
  | none => none
  | some cell =>
      (Plane.gbkSigns.text? first cell).or <|
        (Plane.gb2312.highText? first second).or <|
          ((hanziPlace? first cell).bind fun place => furtherHanzi[place]?).map List.singleton

/-! ## GB 18030 -/

def privatePoint? (row cell : Nat) : Option Nat :=
  if 0xAA ≤ row && row ≤ 0xAF && 96 ≤ cell then some (0xE000 + (row - 0xAA) * 94 + (cell - 96))
  else if 0xF8 ≤ row && row ≤ 0xFE && 96 ≤ cell then
    some (0xE234 + (row - 0xF8) * 94 + (cell - 96))
  else if 0xA1 ≤ row && row ≤ 0xA7 && cell < 96 then some (0xE4C6 + (row - 0xA1) * 96 + cell)
  else Plane.gb18030Private.findSome? fun (start, first, count, point) =>
    if start = row && first ≤ cell && cell < first + count then some (point + (cell - first))
    else none

def gb18030Text? (first second : Nat) : Option Text :=
  (gbkText? first second).or <|
    match cell? second with
    | none => none
    | some cell =>
        (Plane.gb18030Signs.text? first cell).or <|
          ((privatePoint? first cell).bind CodePoint.ofNat?).map List.singleton

def basicPoint (place : Nat) : Nat :=
  match (Plane.gb18030Ranges.takeWhile fun range => range.1 ≤ place).getLast? with
  | some (first, point) => point + (place - first)
  | none => 0

def fourText? (a b c d : Nat) : Option Text :=
  if a < 0x81 || 0xFE < a || c < 0x81 || 0xFE < c || d < 0x30 || 0x39 < d then none
  else
    let place := (((a - 0x81) * 10 + (b - 0x30)) * 126 + (c - 0x81)) * 10 + (d - 0x30)
    let point? : Option Nat :=
      if place < 39420 then some (basicPoint place)
      else if 189000 ≤ place && place - 189000 ≤ 0xFFFFF then some (place - 189000 + 0x10000)
      else none
    (point?.bind CodePoint.ofNat?).map List.singleton

def gb18030 (first : UInt8) : Octets → Reading Unit
  | [] => .unfinished
  | second :: rest =>
      if 0x30 ≤ second && second ≤ 0x39 then
        match rest with
        | third :: fourth :: _ =>
            .ofText? 4 1 () (fourText? first.toNat second.toNat third.toNat fourth.toNat)
        | _ => .unfinished
      else .ofText? 2 1 () (gb18030Text? first.toNat second.toNat)

/-! ## HZ -/

/-- Reads an octet; `pairs` tells that two of them are meant together. -/
def hz (pairs : Bool) : Octets → Reading Bool
  | [] => .unfinished
  | first :: rest =>
      if first = 0x7E then
        match rest with
        | [] => .unfinished
        | second :: _ =>
            if second = 0x7E && !pairs then .points ['~'] 2 pairs
            else if second = 0x7B && !pairs then .points [] 2 true
            else if second = 0x0A && !pairs then .points [] 2 pairs
            else if second = 0x7D && pairs then .points [] 2 false
            else .broken 1
      else if 0x80 ≤ first then .broken 1
      else if !pairs then .one (Charset.samePoint first) pairs
      else match rest with
        | [] => .unfinished
        | second :: _ =>
            .ofText? 2 1 pairs (Plane.gb2312.text? (first.toNat - 0x20) (second.toNat - 0x20))

/-! ## Big5 -/

def big5Cell? (second : Nat) : Option Nat :=
  if 0x40 ≤ second && second ≤ 0x7E then some (second - 0x40)
  else if 0xA1 ≤ second && second ≤ 0xFE then some (second - 0x62)
  else none

def big5Text? (plane : Plane) (first second : Nat) : Option Text :=
  (big5Cell? second).bind fun cell => plane.text? first cell

def cp950Text? (first second : Nat) : Option Text :=
  (big5Text? Plane.cp950 first second).or (big5Text? Plane.big5 first second)

/-- Letters of Hong Kong with an accent of their own. -/
def accented : Plane := [
  ⟨0x88, 34, "Ê\u0304"⟩, ⟨0x88, 36, "Ê\u030c"⟩, ⟨0x88, 65, "ê\u0304"⟩, ⟨0x88, 67, "ê\u030c"⟩]

/-- The rows of Big5 that Hong Kong fills anew. -/
def isRefilled (first second : Nat) : Bool :=
  0xC6 ≤ first && first ≤ 0xC8 && (0xC7 ≤ first || 0xA1 ≤ second)

def hongKongText? (first second : Nat) : Option Text :=
  (if isRefilled first second then none else big5Text? Plane.big5 first second).or <|
    (big5Text? Plane.hongKong first second).or <|
      (big5Cell? second).bind fun cell => accented.sequence? first cell

end Chinese

end SearchShell
