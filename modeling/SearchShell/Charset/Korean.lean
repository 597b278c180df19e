import SearchShell.Charset.Chinese
import SearchShell.Charset.Plane.Ksx1001

/-!
# Korean charsets

ASCII octets stand for themselves and two others for what the plane holds.  The plane holds
the syllables that are used most; the others are spelled letter by letter, or follow in
further rows, or all are put together from their letters.
-/

set_option autoImplicit false

namespace SearchShell

namespace Korean

/-- The syllable of an initial consonant, a vowel and possibly a final consonant. -/
def syllable (initial vowel final : Nat) : Option Text :=
  (CodePoint.ofNat? (0xAC00 + initial * 588 + vowel * 28 + final)).map List.singleton

/-! ## Extended Unix Code -/

def initials : List Nat := [
  0xA1, 0xA2, 0xA4, 0xA7, 0xA8, 0xA9, 0xB1, 0xB2, 0xB3, 0xB5, 0xB6, 0xB7, 0xB8, 0xB9, 0xBA,
  0xBB, 0xBC, 0xBD, 0xBE]

/-- The letters of the plane that end a syllable; the first stands for none. -/
def finals : List Nat := [
  0xD4, 0xA1, 0xA2, 0xA3, 0xA4, 0xA5, 0xA6, 0xA7, 0xA9, 0xAA, 0xAB, 0xAC, 0xAD, 0xAE, 0xAF,
  0xB0, 0xB1, 0xB2, 0xB4, 0xB5, 0xB6, 0xB7, 0xB8, 0xBA, 0xBB, 0xBC, 0xBD, 0xBE]

def place? (octet : UInt8) (octets : List Nat) : Option Nat := octets.idxOf? octet.toNat

def vowel? (octet : UInt8) : Option Nat :=
  if 0xBF ≤ octet && octet ≤ 0xD3 then some (octet.toNat - 0xBF) else none

/-- A syllable spelled by its letters: four pairs of octets that all begin alike, of which the
first pair is a filler. -/
def spelled? (second third fourth fifth sixth : UInt8) (seventh : UInt8) : Option Text :=
  if second = 0xA4 && fourth = 0xA4 && sixth = 0xA4 then do
    syllable (← place? third initials) (← vowel? fifth) (← place? seventh finals)
  else none

def eucText? (first second : Nat) : Option Text :=
  if first = 0xA4 && second = 0xD4 then none else Plane.ksx1001.highText? first second

def euc (first : UInt8) : Octets → Reading Unit
  | [] => .unfinished
  | second :: rest =>
      if first = 0xA4 && second = 0xD4 then
        match rest with
        | a :: b :: c :: d :: e :: f :: _ => .ofText? 8 1 () (spelled? a b c d e f)
        | _ => .unfinished
      else .ofText? 2 1 () (eucText? first.toNat second.toNat)

/-! ## Code page 949 -/

/-- The syllables that the plane does not hold. -/
def furtherSyllables : Array CodePoint := Plane.ksx1001.missing 0xAC00 0xD7A3

def cell? (second : Nat) : Option Nat :=
  if 0x41 ≤ second && second ≤ 0x5A then some (second - 0x41)
  else if 0x61 ≤ second && second ≤ 0x7A then some (second - 0x61 + 26)
  else if 0x81 ≤ second && second ≤ 0xFE then some (second - 0x81 + 52)
  else none

/-- The place of two octets among the further syllables: first come whole rows, and then the
first halves of the rows from 0xA1 on. -/
def syllablePlace? (row cell : Nat) : Option Nat :=
  if 0x81 ≤ row && row ≤ 0xA0 then some ((row - 0x81) * 178 + cell)
  else if 0xA1 ≤ row && row ≤ 0xC6 && cell < 84 then some (5696 + (row - 0xA1) * 84 + cell)
  else none

def cp949Text? (first second : Nat) : Option Text :=
  (Plane.ksx1001.highText? first second).or <|
    (((cell? second).bind (syllablePlace? first)).bind fun place =>
      furtherSyllables[place]?).map List.singleton

/-! ## Johab -/

/-- Whether five bits stand for a letter, for none, or for nothing. -/
inductive Letter where
  | letter (place : Nat)
  | filler

/-- The letter for five bits, if `skipped` are left out of the count that begins after the
filler. -/
def letter? (filler count : Nat) (skipped : List Nat) (bits : Nat) : Option Letter :=
  if bits = filler then some .filler
  else if bits < filler || skipped.contains bits then none
  else
    let place := bits - filler - 1 - (skipped.countP fun n => n < bits)
    if place < count then some (.letter place) else none

def initial? (bits : Nat) : Option Letter := letter? 1 19 [] bits

def johabVowel? (bits : Nat) : Option Letter := letter? 2 21 [8, 9, 16, 17, 24, 25] bits

def final? (bits : Nat) : Option Letter := letter? 1 27 [18] bits

def single (number : Option Nat) : Option Text :=
  (number.bind fun n => CodePoint.ofNat? (0x3090 + n)).map List.singleton

def johabSyllable? (first second : Nat) : Option Text := do
  let initial ← initial? (first / 4 % 32)
  let vowel ← johabVowel? ((first * 8 + second / 32) % 32)
  let final ← final? (second % 32)
  match initial, vowel, final with
  | .letter i, .letter v, .letter f => syllable i v (f + 1)
  | .letter i, .letter v, .filler => syllable i v 0
  | .letter i, .filler, .filler => single initials[i]?
  | .filler, .letter v, .filler => single (some (0xBF + v))
  | .filler, .filler, .letter f => single finals[f + 1]?
  | .filler, .filler, .filler => some ['\u3000']
  | _, _, _ => none

/-- The text for two octets that stand for a cell of the plane, two rows for each first octet.
The letters of the plane are not among them. -/
def johabSign? (first second : Nat) : Option Text :=
  let isCell := (0x31 ≤ second && second ≤ 0x7E) || (0x91 ≤ second && second ≤ 0xFE)
  if !isCell || first < 0xD9 || first = 0xDF || 0xF9 < first then none
  else if first = 0xDA && 0xA1 ≤ second && second ≤ 0xD3 then none
  else
    let rows := if first < 0xE0 then 2 * (first - 0xD9) else 2 * first - 0x197
    let cell := if second < 0x91 then second - 0x31 else second - 0x43
    Plane.ksx1001.text? (rows + cell / 94 + 1) (cell % 94 + 1)

def johabText? (first second : Nat) : Option Text :=
  if first < 0xD8 then johabSyllable? first second else johabSign? first second

end Korean

end SearchShell
