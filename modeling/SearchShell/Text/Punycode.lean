import SearchShell.Text.Basic

/-!
# Punycode

A text in ASCII letters, digits and hyphens: first its ASCII code points and a hyphen, then
where the others are inserted.  They are inserted in the order of their numbers, and each
insertion is one number, the distance from the one before, written to a changing base with
the least digit first.
-/

set_option autoImplicit false

namespace SearchShell

namespace Punycode

def digit (n : Nat) : CodePoint := Char.ofNat (if n < 26 then 0x61 + n else 0x16 + n)

/-- The value of a digit; letters count in either case. -/
def digitValue? (c : CodePoint) : Option Nat :=
  if c.isAsciiDigit then some (c.val - 0x16)
  else if c.isAsciiLetter then some (c.toAsciiLower.val - 0x61)
  else none

/-- The value below which the digit at a place is the last one of its number. -/
def threshold (place bias : Nat) : Nat := min 26 (max 1 (36 * (place + 1) - bias))

theorem one_le_threshold (place bias : Nat) : 1 ≤ threshold place bias := by
  simp only [threshold]
  omega

/-- Divides until at most 455 is left, and counts 36 for every division. -/
def reduce (counted delta : Nat) : Nat × Nat :=
  if 455 < delta then reduce (counted + 36) (delta / 35) else (counted, delta)
termination_by delta
decreasing_by omega

/-- The bias after an insertion that made the text `length` code points long. -/
def adapt (delta : Nat) (isFirst : Bool) (length : Nat) : Nat :=
  let scaled := if isFirst then delta / 700 else delta / 2
  let (counted, left) := reduce 0 (scaled + scaled / length)
  counted + 36 * left / (left + 38)

def writeNumber (bias place n : Nat) : Text :=
  let t := threshold place bias
  if n < t then [digit n]
  else digit (t + (n - t) % (36 - t)) :: writeNumber bias (place + 1) ((n - t) / (36 - t))
termination_by n
decreasing_by
  have := one_le_threshold place bias
  have := Nat.div_le_self (n - threshold place bias) (36 - threshold place bias)
  omega

def readNumber? (bias place weight value : Nat) : Text → Option (Nat × Text)
  | [] => none
  | c :: rest => match digitValue? c with
      | none => none
      | some n =>
          let t := threshold place bias
          if n < t then some (value + n * weight, rest)
          else readNumber? bias (place + 1) (weight * (36 - t)) (value + n * weight) rest

/-! ## Writing -/

/-- What has been written, the distance so far, and how many code points are in place. -/
structure Writing where
  written : Text := []
  delta : Nat := 0
  bias : Nat := 72
  isFirst : Bool := true
  placed : Nat

namespace Writing

/-- Passes a code point of the text while those with the number `point` are inserted. -/
def pass (point : Nat) (writing : Writing) (c : CodePoint) : Writing :=
  if c.val < point then { writing with delta := writing.delta + 1 }
  else if c.val = point then {
    written := writing.written ++ writeNumber writing.bias 0 writing.delta
    delta := 0
    bias := adapt writing.delta writing.isFirst (writing.placed + 1)
    isFirst := false
    placed := writing.placed + 1 }
  else writing

/-- Inserts the code points with the given numbers, which ascend from `low`. -/
def insertAll (s : Text) (low : Nat) (writing : Writing) : List Nat → Writing
  | [] => writing
  | point :: rest =>
      let skipped :=
        { writing with delta := writing.delta + (point - low) * (writing.placed + 1) }
      let passed := s.foldl (pass point) skipped
      insertAll s (point + 1) { passed with delta := passed.delta + 1 } rest

end Writing

def insertNumber (n : Nat) : List Nat → List Nat
  | [] => [n]
  | first :: rest =>
      if n = first then first :: rest
      else if n < first then n :: first :: rest
      else first :: insertNumber n rest

def extended (s : Text) : List Nat :=
  ((s.filter fun c => !c.isAscii).map CodePoint.val).foldr insertNumber []

def encode (s : Text) : Text :=
  let base := s.filter CodePoint.isAscii
  let writing := Writing.insertAll s 0x80 { placed := base.length } (extended s)
  (if base.isEmpty then [] else base ++ text "-") ++ writing.written

/-! ## Reading -/

/-- A text to insert into, with the number of the last code point and the place after it. -/
structure Reading where
  result : Text
  point : Nat := 0x80
  place : Nat := 0
  bias : Nat := 72
  isFirst : Bool := true
  isSound : Bool := true

namespace Reading

/-- One insertion.  Numbers that are too big count as a question mark. -/
def insert (delta : Nat) (reading : Reading) : Reading :=
  let room := reading.result.length + 1
  let place := (reading.place + delta) % room
  let wanted := reading.point + (reading.place + delta) / room
  let (c, isSound) : CodePoint × Bool := match CodePoint.ofNat? wanted with
    | some c => (c, reading.isSound)
    | none => ('?', false)
  { result := reading.result.take place ++ c :: reading.result.drop place
    point := c.val
    place := place + 1
    bias := adapt delta reading.isFirst room
    isFirst := false
    isSound := isSound }

/-- At most `fuel` insertions.  What is no number ends them. -/
def insertAll (reading : Reading) : Nat → Text → Reading
  | 0, _ => reading
  | _, [] => reading
  | fuel + 1, c :: rest =>
      match readNumber? reading.bias 0 1 0 (c :: rest) with
      | some (delta, rest) => insertAll (reading.insert delta) fuel rest
      | none => { reading with isSound := false }

def ofParts (base insertions : Text) : Reading :=
  insertAll { result := base } insertions.length insertions

end Reading

/-- The parts before and after the last hyphen; without one everything is after it. -/
def split (s : Text) : Text × Text :=
  let after := (s.reverse.takeWhile fun c => c ≠ CodePoint.ofChar '-').reverse
  (s.take (s.length - after.length - 1), after)

def decode? (s : Text) : Option Text :=
  let (base, insertions) := split s
  let reading := Reading.ofParts base insertions
  if s.all CodePoint.isAscii && reading.isSound then some reading.result else none

end Punycode

end SearchShell
