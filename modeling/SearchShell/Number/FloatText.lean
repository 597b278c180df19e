import SearchShell.Number.Binary64
import SearchShell.Number.Integer

/-!
# Texts of doubles

Writing: the shortest digits, positional where the decimal point is near them
and with an exponent elsewhere, always with a mark that tells a double from an
integer.  Reading: the usual decimal forms and the words for infinity and for
not a number.
-/

set_option autoImplicit false

namespace SearchShell

structure FloatStyle where
  nan : Text
  infinity : Text
  /-- The least exponent of a leading digit that is written positionally. -/
  positionalFrom : Int := -4
  exponentFrom : Int := 16
  exponentWidth : Nat := 2

namespace FloatStyle

def plain : FloatStyle := { nan := text "nan", infinity := text "inf" }

def json : FloatStyle := { nan := text "NaN", infinity := text "Infinity" }

end FloatStyle

namespace Text

def zeros (count : Nat) : Text := List.replicate count '0'

/-- Digits with the decimal point after the first `point` of them. -/
def positional (digits : Text) (point : Int) : Text :=
  match point with
  | .ofNat before =>
      if before = 0 then text "0." ++ digits
      else
        let whole := digits.take before
        let fraction := digits.drop before
        whole ++ zeros (before - digits.length) ++ text "." ++
          (if fraction.isEmpty then zeros 1 else fraction)
  | .negSucc missing => text "0." ++ zeros (missing + 1) ++ digits

def exponent (width : Nat) (e : Int) : Text :=
  let digits := ofNat e.natAbs
  (if e < 0 then text "e-" else text "e+") ++ zeros (width - digits.length) ++ digits

def ofDecimal (style : FloatStyle) (x : Decimal) : Text :=
  let digits := ofNat x.significand
  let leading := x.exponent + digits.length - 1
  if style.positionalFrom ≤ leading && leading < style.exponentFrom then
    positional digits (leading + 1)
  else
    let fraction := digits.drop 1
    digits.take 1 ++ (if fraction.isEmpty then [] else text "." ++ fraction) ++
      exponent style.exponentWidth leading

def signed (negative : Bool) (s : Text) : Text := if negative then '-' :: s else s

def ofBinary64 (style : FloatStyle) : Binary64 → Text
  | .nan => style.nan
  | .infinite negative => signed negative style.infinity
  | .finite negative rank => signed negative (ofDecimal style (Binary64.shortest rank))

end Text

structure FloatLiteral where
  whole : Text
  fraction : Text
  exponent : Int

namespace FloatLiteral

def value (literal : FloatLiteral) (negative : Bool) : Binary64 :=
  Binary64.ofDecimal negative (literal.whole ++ literal.fraction).asciiNumber
    (literal.exponent - literal.fraction.length)

/-- An exponent mark with at least one digit behind it, and nothing after. -/
def readExponent? : Text → Option Int
  | [] => some 0
  | mark :: rest =>
      if mark.toAsciiLower = CodePoint.ofChar 'e' then
        let (negative, digits) := Text.splitSign rest
        if digits.isAsciiDigits then some (signedInt negative digits.asciiNumber) else none
      else none

/-- An unsigned literal: digits on at least one side of an optional point, then
an optional exponent. -/
def read? (s : Text) : Option FloatLiteral :=
  let whole := s.takeWhile CodePoint.isAsciiDigit
  let (fraction, tail) := match s.dropWhile CodePoint.isAsciiDigit with
    | [] => ([], [])
    | c :: rest =>
        if c = CodePoint.ofChar '.' then
          (rest.takeWhile CodePoint.isAsciiDigit, rest.dropWhile CodePoint.isAsciiDigit)
        else ([], c :: rest)
  if whole.isEmpty && fraction.isEmpty then none
  else (readExponent? tail).map fun exponent => ⟨whole, fraction, exponent⟩

end FloatLiteral

def readBareFloat? (s : Text) : Option Binary64 :=
  let (negative, unsigned) := s.splitSign
  let word := unsigned.toAsciiLower
  if word = text "inf" || word = text "infinity" then some (.infinite negative)
  else if word = text "nan" then some .nan
  else (FloatLiteral.read? unsigned).map (·.value negative)

def CodePoint.withAsciiDigit (c : CodePoint) : CodePoint :=
  match c.digitValue? with
  | some d => CodePoint.ofHexValue d
  | none => c

/-- Every underscore has an ASCII digit on both sides; `before` is what stands
before the text. -/
def Text.underscoresJoinDigits (before : Option CodePoint) : Text → Bool
  | [] => true
  | [c] => c ≠ CodePoint.ofChar '_'
  | c :: next :: rest =>
      (c ≠ CodePoint.ofChar '_' ||
        before.any CodePoint.isAsciiDigit && next.isAsciiDigit) &&
      Text.underscoresJoinDigits (some c) (next :: rest)

/-- Reads a double: white space around it does not count, digits may be of any
script and may have single underscores between them. -/
def readFloat? (raw : Text) : Option Binary64 :=
  let s : Text := (raw.trimBy CodePoint.isWhiteSpace).map CodePoint.withAsciiDigit
  if s.underscoresJoinDigits none then
    readBareFloat? (s.filter fun c => c ≠ CodePoint.ofChar '_')
  else none

def floatFaultMessage (raw : Text) : Text :=
  text "could not convert string to float: " ++ raw.quoted

end SearchShell
