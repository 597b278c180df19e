import SearchShell.Charset.Chinese
import SearchShell.Charset.Plane.Jis0208
import SearchShell.Charset.Plane.Jis0212
import SearchShell.Charset.Plane.Jis0213

/-!
# Japanese charsets

ASCII octets stand for themselves or almost so, some octets stand for half-width kana, and
two or three for what the planes hold.
-/

set_option autoImplicit false

namespace SearchShell

namespace Japanese

def kana? (octet : Nat) : Option Text :=
  if 0xA1 ≤ octet && octet ≤ 0xDF then (CodePoint.ofNat? (0xFEC0 + octet)).map List.singleton
  else none

/-- An octet of the Roman set, which is ASCII but for two signs. -/
def roman (octet : UInt8) : CodePoint :=
  if octet = 0x5C then '¥' else if octet = 0x7E then '‾' else Charset.samePoint octet

/-! ## Planes -/

/-- Characters of two code points. -/
def composed : Plane := [
  ⟨4, 87, "か\u309a"⟩, ⟨4, 88, "き\u309a"⟩, ⟨4, 89, "く\u309a"⟩, ⟨4, 90, "け\u309a"⟩,
  ⟨4, 91, "こ\u309a"⟩, ⟨5, 87, "カ\u309a"⟩, ⟨5, 88, "キ\u309a"⟩, ⟨5, 89, "ク\u309a"⟩,
  ⟨5, 90, "ケ\u309a"⟩, ⟨5, 91, "コ\u309a"⟩, ⟨5, 92, "セ\u309a"⟩, ⟨5, 93, "ツ\u309a"⟩,
  ⟨5, 94, "ト\u309a"⟩, ⟨6, 88, "ㇷ\u309a"⟩, ⟨11, 36, "æ\u0300"⟩, ⟨11, 40, "ɔ\u0300"⟩,
  ⟨11, 41, "ɔ\u0301"⟩, ⟨11, 42, "ʌ\u0300"⟩, ⟨11, 43, "ʌ\u0301"⟩, ⟨11, 44, "ə\u0300"⟩,
  ⟨11, 45, "ə\u0301"⟩, ⟨11, 46, "ɚ\u0300"⟩, ⟨11, 47, "ɚ\u0301"⟩, ⟨11, 69, "˩˥"⟩,
  ⟨11, 70, "˥˩"⟩]

/-- The cells of the first plane that were empty in the first edition. -/
def laterCells : List (Nat × Nat) := [
  (14, 1), (15, 94), (47, 52), (47, 94), (84, 7), (94, 90), (94, 91), (94, 92), (94, 93),
  (94, 94)]

def firstPlaneText? (repertoire : JapaneseRepertoire) (row cell : Nat) : Option Text :=
  match repertoire with
  | .jis1990 => Plane.jis0208.text? row cell
  | .jis2000 | .jis2004 =>
      if repertoire = .jis2000 && laterCells.contains (row, cell) then none
      else (Plane.jis0208.text? row cell).or <|
        (Plane.jis0213First.text? row cell).or (composed.sequence? row cell)

/-- The text for a cell of the second plane.  One character had another form at first. -/
def secondPlaneText? (repertoire : JapaneseRepertoire) (row cell : Nat) : Option Text :=
  match repertoire with
  | .jis1990 => Plane.jis0212.text? row cell
  | .jis2000 =>
      if row = 93 && cell = 27 then some ['\u9b1d'] else Plane.jis0213Second.text? row cell
  | .jis2004 => Plane.jis0213Second.text? row cell

/-- How many of two octets are broken if they stand for no character of the first plane.  The
cells that were filled later are known to be empty. -/
def brokenLength (repertoire : JapaneseRepertoire) (row cell : Nat) : Nat :=
  if repertoire = .jis2000 && laterCells.contains (row, cell) then 2 else 1

/-! ## Extended Unix Code -/

/-- The text for a cell of the first plane.  The tilde is a wide one. -/
def doubleText? (repertoire : JapaneseRepertoire) (row cell : Nat) : Option Text :=
  if repertoire ≠ .jis1990 && row = 2 && cell = 18 then some ['～']
  else firstPlaneText? repertoire row cell

/-- The text for three octets, of which the first is 0x8F.  The second plane of JIS X 0213 and
JIS X 0212 fill different rows. -/
def tripleText? (repertoire : JapaneseRepertoire) (second third : Nat) : Option Text :=
  (secondPlaneText? repertoire (second - 0xA0) (third - 0xA0)).or
    (Plane.jis0212.text? (second - 0xA0) (third - 0xA0))

def euc (repertoire : JapaneseRepertoire) (first : UInt8) : Octets → Reading Unit
  | [] => .unfinished
  | second :: rest =>
      if first = 0x8E then .ofText? 2 1 () (kana? second.toNat)
      else if first = 0x8F then
        match rest with
        | [] => .unfinished
        | third :: _ => .ofText? 3 1 () (tripleText? repertoire second.toNat third.toNat)
      else
        let row := first.toNat - 0xA0
        let cell := second.toNat - 0xA0
        .ofText? 2 (brokenLength repertoire row cell) () (doubleText? repertoire row cell)

/-! ## Shifted codes -/

def shiftedCell? (second : Nat) : Option Nat :=
  if 0x40 ≤ second && second ≤ 0x7E then some (second - 0x40)
  else if 0x80 ≤ second && second ≤ 0xFC then some (second - 0x41)
  else none

/-- The row, counted on from the first plane to the second, and the cell that two octets
stand for. -/
def shiftedPlace? (first second : Nat) : Option (Nat × Nat) :=
  (shiftedCell? second).map fun cell =>
    let half := if first < 0xE0 then first - 0x81 else first - 0xC1
    (2 * half + cell / 94 + 1, cell % 94 + 1)

/-- The rows of the second plane in the order in which they follow the first plane. -/
def secondPlaneRow (place : Nat) : Nat :=
  match place with
  | 1 => 1
  | 2 => 8
  | 3 => 3
  | 4 => 4
  | 5 => 5
  | 6 => 12
  | 7 => 13
  | 8 => 14
  | 9 => 15
  | later => later + 68

/-- The text for a row, counted on from the first plane, and a cell.  The backslash is a wide
one only where ASCII has the other. -/
def shiftedText? (repertoire : JapaneseRepertoire) (row cell : Nat) : Option Text :=
  if repertoire ≠ .jis1990 && row = 1 && cell = 32 then some ['\\']
  else if row ≤ 94 then firstPlaneText? repertoire row cell
  else if repertoire = .jis1990 then none
  else secondPlaneText? repertoire (secondPlaneRow (row - 94)) cell

def shiftedPair (repertoire : JapaneseRepertoire) (first : UInt8) : Octets → Reading Unit
  | [] => .unfinished
  | second :: _ => match shiftedPlace? first.toNat second.toNat with
      | none => .broken 1
      | some (row, cell) =>
          .ofText? 2 (brokenLength repertoire row cell) () (shiftedText? repertoire row cell)

def isLead (octet : UInt8) : Bool :=
  (0x81 ≤ octet && octet ≤ 0x9F) || (0xE0 ≤ octet && octet ≤ 0xFC)

def shifted (repertoire : JapaneseRepertoire) (_ : Unit) : Octets → Reading Unit
  | [] => .unfinished
  | first :: rest =>
      if first < 0x80 then
        .one (if repertoire = .jis1990 then Charset.samePoint first else roman first) ()
      else if isLead first then shiftedPair repertoire first rest
      else .ofText? 1 1 () (kana? first.toNat)

/-! ## Code page 932 -/

/-- The octets that stand for a private character by themselves. -/
def privateOctet? (octet : UInt8) : Option Text :=
  let number? : Option Nat :=
    if octet = 0xA0 then some 0xF8F0
    else if 0xFD ≤ octet then some (0xF8F1 + (octet.toNat - 0xFD))
    else none
  (number?.bind CodePoint.ofNat?).map List.singleton

/-- The text for two octets.  Ten rows are private. -/
def cp932Text? (first second : Nat) : Option Text :=
  (shiftedCell? second).bind fun cell =>
    (Plane.cp932.text? first cell).or <|
      if 0xF0 ≤ first && first ≤ 0xF9 then
        (CodePoint.ofNat? (0xE000 + 188 * (first - 0xF0) + cell)).map List.singleton
      else (shiftedPlace? first second).bind fun (row, cell) => shiftedText? .jis1990 row cell

def cp932 (_ : Unit) : Octets → Reading Unit
  | [] => .unfinished
  | first :: rest =>
      if first ≤ 0x80 then .one (Charset.samePoint first) ()
      else match (privateOctet? first).or (kana? first.toNat) with
        | some s => .points s 1 ()
        | none => Reading.pair cp932Text? first rest

end Japanese

end SearchShell
