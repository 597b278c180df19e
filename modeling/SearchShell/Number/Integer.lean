import SearchShell.Text.Basic
import SearchShell.Text.Quoted

/-!
# Integers in text

Integers are unbounded and written in decimal without leading zeros.  One is read from an optional
sign and decimal digits of any script, with single underscores between digits; white space around
it does not count.
-/

set_option autoImplicit false

namespace SearchShell

/-! ## Writing -/

namespace Text

def ofNat (n : Nat) : Text := (Nat.toDigits 10 n).map CodePoint.ofChar

def ofInt : Int → Text
  | .ofNat n => ofNat n
  | .negSucc n => '-' :: ofNat (n + 1)

end Text

def decimalValue (digits : List Nat) : Nat := digits.foldl (fun n d => 10 * n + d) 0

def CodePoint.asciiDigitValue (c : CodePoint) : Nat := c.val - 0x30

def Text.asciiNumber (s : Text) : Nat := decimalValue (s.map CodePoint.asciiDigitValue)

/-- The most digits an integer may be written with when it is read. -/
def digitLimit : Nat := 4300

/-! ## Reading -/

inductive IntegerFault where
  | malformed (raw : Text)
  | tooLong (digits : Nat)
deriving DecidableEq

namespace IntegerFault

/-- The most code points of a refused text that the message shows, quotes included. -/
def shownLength : Nat := 200

def message : IntegerFault → Text
  | malformed raw =>
      text "invalid literal for int() with base 10: " ++ raw.quoted.take shownLength
  | tooLong digits =>
      text "Exceeds the limit (" ++ Text.ofNat digitLimit ++
        text " digits) for integer string conversion: value has " ++ Text.ofNat digits ++
        text " digits; use sys.set_int_max_str_digits() to increase the limit"

end IntegerFault

/-- A leading sign, as whether it is a minus, and what follows it. -/
def Text.splitSign : Text → Bool × Text
  | [] => (false, [])
  | c :: rest =>
      if c = CodePoint.ofChar '-' then (true, rest)
      else if c = CodePoint.ofChar '+' then (false, rest)
      else (false, c :: rest)

def signedInt (negative : Bool) (magnitude : Nat) : Int :=
  if negative then -(magnitude : Int) else magnitude

def CodePoint.isDigitMark (c : CodePoint) : Bool :=
  c = CodePoint.ofChar '_' || c.digitValue?.isSome

/-- No underscore leads, trails or follows another. -/
def Text.underscoresSeparate (s : Text) : Bool :=
  (s.splitOn (CodePoint.ofChar '_')).all fun piece => !piece.isEmpty

/-- Reads an integer.  The length of a well separated digit run is judged before
what follows the run. -/
def readInteger (raw : Text) : Except IntegerFault Int :=
  let (negative, unsigned) := (raw.trimBy CodePoint.isWhiteSpace).splitSign
  let run : Text := unsigned.takeWhile CodePoint.isDigitMark
  let digits := run.filterMap CodePoint.digitValue?
  if !run.underscoresSeparate then .error (.malformed raw)
  else if digits.length > digitLimit then .error (.tooLong digits.length)
  else if run.length < unsigned.length then .error (.malformed raw)
  else .ok (signedInt negative (decimalValue digits))

end SearchShell
