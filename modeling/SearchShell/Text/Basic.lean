/-!
# Code points and text

Everything the shell reads or prints is a list of code points.  A code point
here may be a surrogate, which no `Char` can be: a payload can spell one with a
`\u` escape, a document can hold it, and only an encoding has to refuse it.
-/

set_option autoImplicit false

namespace SearchShell

/-- A Unicode code point, surrogates included. -/
structure CodePoint where
  val : Nat
  val_lt : val < 0x110000
deriving DecidableEq

namespace CodePoint

@[ext] theorem ext {a b : CodePoint} (h : a.val = b.val) : a = b := by
  cases a
  cases b
  cases h
  rfl

def ofChar (c : Char) : CodePoint :=
  ⟨c.toNat, by
    have valid : c.toNat < 0xD800 ∨ 0xDFFF < c.toNat ∧ c.toNat < 0x110000 := c.valid
    omega⟩

instance : Coe Char CodePoint := ⟨ofChar⟩

@[simp] theorem ofChar_inj {a b : Char} : ofChar a = ofChar b ↔ a = b :=
  ⟨fun h => Char.ext (UInt32.toNat_inj.mp (congrArg val h)), congrArg ofChar⟩

def ofNat? (n : Nat) : Option CodePoint :=
  if h : n < 0x110000 then some ⟨n, h⟩ else none

/-- The code point that stands for what could not be decoded. -/
def replacement : CodePoint := ⟨0xFFFD, by decide⟩

def byteOrderMark : CodePoint := ⟨0xFEFF, by decide⟩

def isHighSurrogate (c : CodePoint) : Bool := 0xD800 ≤ c.val && c.val < 0xDC00

def isLowSurrogate (c : CodePoint) : Bool := 0xDC00 ≤ c.val && c.val < 0xE000

/-- Half of a pair: no encoding of Unicode text has a place for it alone. -/
def isSurrogate (c : CodePoint) : Bool := 0xD800 ≤ c.val && c.val < 0xE000

/-- The code point above U+FFFF that a high and a low surrogate spell together.
The remainders keep it in range for every argument. -/
def ofSurrogates (high low : CodePoint) : CodePoint :=
  ⟨0x10000 + high.val % 0x400 * 0x400 + low.val % 0x400, by
    have := Nat.mod_lt high.val (show 0 < 0x400 by decide)
    have := Nat.mod_lt low.val (show 0 < 0x400 by decide)
    omega⟩

def isAscii (c : CodePoint) : Bool := c.val < 0x80

def isAsciiDigit (c : CodePoint) : Bool := 0x30 ≤ c.val && c.val ≤ 0x39

def isAsciiUpper (c : CodePoint) : Bool := 0x41 ≤ c.val && c.val ≤ 0x5A

def isAsciiLower (c : CodePoint) : Bool := 0x61 ≤ c.val && c.val ≤ 0x7A

def isAsciiLetter (c : CodePoint) : Bool := c.isAsciiUpper || c.isAsciiLower

def toAsciiLower (c : CodePoint) : CodePoint :=
  if h : c.val ≤ 0x5A then
    if 0x41 ≤ c.val then ⟨c.val + 0x20, by omega⟩ else c
  else c

def hexValue? (c : CodePoint) : Option Nat :=
  if 0x30 ≤ c.val && c.val ≤ 0x39 then some (c.val - 0x30)
  else if 0x41 ≤ c.val && c.val ≤ 0x46 then some (c.val - 0x37)
  else if 0x61 ≤ c.val && c.val ≤ 0x66 then some (c.val - 0x57)
  else none

end CodePoint

abbrev Text := List CodePoint

def text (s : String) : Text := s.toList.map CodePoint.ofChar

namespace Text

def toAsciiLower (s : Text) : Text := s.map CodePoint.toAsciiLower

def isAsciiDigits (s : Text) : Bool := !s.isEmpty && s.all CodePoint.isAsciiDigit

/-- Order by code points: the first difference decides, and a text precedes all
that begin with it. -/
def precedes : Text → Text → Bool
  | [], [] => false
  | [], _ :: _ => true
  | _ :: _, [] => false
  | a :: s, b :: t => if a = b then precedes s t else a.val < b.val

def joined (separator : Text) (parts : List Text) : Text := separator.intercalate parts

/-- The maximal runs between separators, the empty ones left out. -/
def pieces (separator : CodePoint) (s : Text) : List Text :=
  (s.splitOn separator).filter fun piece => !piece.isEmpty

end Text

/-! ## Blanks, trimming and words

Commands are split at blanks.  A blank is a code point with the white-space
property or one of the four information separators U+001C to U+001F.  Number
texts are trimmed of white space in the narrow sense only. -/

namespace CodePoint

def isWhiteSpace (c : CodePoint) : Bool :=
  (0x9 ≤ c.val && c.val ≤ 0xD) || c.val = 0x20 || c.val = 0x85 || c.val = 0xA0 ||
    c.val = 0x1680 || (0x2000 ≤ c.val && c.val ≤ 0x200A) || c.val = 0x2028 ||
    c.val = 0x2029 || c.val = 0x202F || c.val = 0x205F || c.val = 0x3000

def isBlank (c : CodePoint) : Bool :=
  c.isWhiteSpace || (0x1C ≤ c.val && c.val ≤ 0x1F)

end CodePoint

namespace Text

def dropTrailing (drop : CodePoint → Bool) (s : Text) : Text :=
  (s.reverse.dropWhile drop).reverse

def trimBy (drop : CodePoint → Bool) (s : Text) : Text :=
  dropTrailing drop (s.dropWhile drop)

def trim (s : Text) : Text := s.trimBy CodePoint.isBlank

def isBlank (s : Text) : Bool := s.all CodePoint.isBlank

/-- The leading word, which is empty when the text begins with a blank. -/
def firstWord (s : Text) : Text := s.takeWhile fun c => !c.isBlank

def afterWord (s : Text) : Text :=
  (s.dropWhile fun c => !c.isBlank).dropWhile CodePoint.isBlank

end Text

/-! ## Decimal digits

Number texts may be written with the decimal digits of any script.  The table
lists where each run of ten begins (general category `Nd`). -/

namespace CodePoint

/-- The zeros of all decimal digit runs; each is followed by its one to nine. -/
def digitZeros : List Nat := [
  0x30, 0x660, 0x6F0, 0x7C0, 0x966, 0x9E6, 0xA66, 0xAE6, 0xB66, 0xBE6, 0xC66, 0xCE6, 0xD66,
  0xDE6, 0xE50, 0xED0, 0xF20, 0x1040, 0x1090, 0x17E0, 0x1810, 0x1946, 0x19D0, 0x1A80, 0x1A90,
  0x1B50, 0x1BB0, 0x1C40, 0x1C50, 0xA620, 0xA8D0, 0xA900, 0xA9D0, 0xA9F0, 0xAA50, 0xABF0,
  0xFF10, 0x104A0, 0x10D30, 0x11066, 0x110F0, 0x11136, 0x111D0, 0x112F0, 0x11450, 0x114D0,
  0x11650, 0x116C0, 0x11730, 0x118E0, 0x11950, 0x11C50, 0x11D50, 0x11DA0, 0x16A60, 0x16AC0,
  0x16B50, 0x1D7CE, 0x1D7D8, 0x1D7E2, 0x1D7EC, 0x1D7F6, 0x1E140, 0x1E2F0, 0x1E950, 0x1FBF0]

def digitValue? (c : CodePoint) : Option Nat :=
  (digitZeros.find? fun start => start ≤ c.val && c.val < start + 10).map fun start => c.val - start

end CodePoint

end SearchShell
