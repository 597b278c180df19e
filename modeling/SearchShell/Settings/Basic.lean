import SearchShell.Invalid
import SearchShell.Json.Basic
import SearchShell.Number.FloatText
import SearchShell.Text.Utf8

/-!
# Connection settings

What is set, the directory of the log among it, and what counts as a value for a setting.
-/

set_option autoImplicit false

namespace SearchShell

structure Settings where
  host : Text
  port : Int
  clusterName : Text
  /-- In seconds. -/
  timeout : Binary64
deriving DecidableEq

namespace Settings

def serverAddress (settings : Settings) : Text :=
  text "http://" ++ settings.host ++ text ":" ++ Text.ofInt settings.port

end Settings

/-! ## Directories and files

The normal form of a directory's path has no empty parts and no single dots.  Two
slashes at the beginning are kept, because they may name another root. -/

/-- How many slashes the normal form of a path begins with. -/
def rootOf (path : Text) : Text :=
  match (path.takeWhile fun c => c = CodePoint.ofChar '/').length with
  | 0 => []
  | 2 => text "//"
  | _ => text "/"

def pathParts (path : Text) : List Text :=
  (Text.pieces '/' path).filter fun part => part ≠ text "."

def normalDirectory (path : Text) : Text :=
  let normal := rootOf path ++ Text.joined (text "/") (pathParts path)
  if normal.isEmpty then text "." else normal

/-- A step of a path: two dots go back to where the step before came from. -/
def followPart (reached : List Text) (part : Text) : List Text :=
  if part = text ".." then
    match reached.getLast? with
    | some last => if last = text ".." then reached ++ [part] else reached.dropLast
    | none => [part]
  else reached ++ [part]

/-- Where a file in a directory is found, seen from the working directory; none for a file
that is outside of it. -/
def locationOf? (directory file : Text) : Option Text :=
  let parts := (pathParts directory ++ pathParts file).foldl followPart []
  if !(rootOf directory).isEmpty || !(rootOf file).isEmpty || parts.head? = some (text "..") then
    none
  else some (Text.joined (text "/") parts)

inductive PathFault where
  | missing
  | zeroInside
  | unencodable (fault : Unencodable)
deriving DecidableEq

namespace PathFault

def message : PathFault → Text
  | missing => text "'list' object has no attribute 'mkdir'"
  | zeroInside => text "embedded null byte"
  | unencodable fault => fault.message

def ofPath? (path : Text) : Option PathFault :=
  match Unencodable.find? .fileName 0 path with
  | some fault => some (.unencodable fault)
  | none => if path.any fun c => c.val = 0 then some .zeroInside else none

end PathFault

/-! ## Conversions of given values

A setting may be given as another kind of value that stands for the same thing: a
number in a text, a truth value for one or zero, a double without a fraction for
an integer. -/

/-- Integers that come from doubles lie strictly between plus and minus this bound. -/
def wholeDoubleBound : Int := 9223372036854775808

/-- An underscore stands neither at an end nor beside another, and they are all dropped. -/
def Text.withoutUnderscores? (s : Text) : Option Text :=
  if s.underscoresSeparate then some (s.filter fun c => c ≠ CodePoint.ofChar '_') else none

def Text.withoutZeroFraction (s : Text) : Text :=
  let whole := s.takeWhile fun c => c ≠ CodePoint.ofChar '.'
  let fraction := s.drop (whole.length + 1)
  if !fraction.isEmpty && fraction.all fun c => c = CodePoint.ofChar '0' then whole else s

def CodePoint.isCountingDigit (c : CodePoint) : Bool := c.isAsciiDigit && c ≠ CodePoint.ofChar '0'

/-- What follows a leading zero, without further zeros and underscores; `last` is the one
before.  A number begins there with a digit or a minus sign, a fraction takes the last one
to be its whole part, and if nothing follows the last one is all there is. -/
def Text.afterZero? (last : CodePoint) : Text → Option Text
  | [] => some [last]
  | c :: rest =>
      if c = CodePoint.ofChar '0' || c = CodePoint.ofChar '_' then afterZero? c rest
      else if c.isCountingDigit || c = CodePoint.ofChar '-' then some (c :: rest)
      else if c = CodePoint.ofChar '.' then some (last :: c :: rest)
      else none

def Text.withoutLeadingZeros? : Text → Option Text
  | [] => none
  | c :: rest =>
      if c = CodePoint.ofChar '0' then afterZero? c rest
      else if c.isCountingDigit || c = CodePoint.ofChar '-' then some (c :: rest)
      else none

/-- Without white space around it and a plus sign, which stands before no minus sign. -/
def Text.withoutPlus? (s : Text) : Option Text :=
  match s.trimBy CodePoint.isWhiteSpace with
  | [] => none
  | c :: rest =>
      if c ≠ CodePoint.ofChar '+' then some (c :: rest)
      else if rest.head? = some (CodePoint.ofChar '-') then none
      else some rest

def Text.plainInteger? (s : Text) : Option Text := do
  let s ← s.withoutPlus?
  let (sign, unsigned) : Text × Text :=
    if s.head? = some (CodePoint.ofChar '-') then (text "-", s.drop 1) else ([], s)
  let digits ← (← unsigned.withoutLeadingZeros?).withoutZeroFraction.withoutUnderscores?
  some (sign ++ digits)

/-- Digits, of which the first is zero only when it is the only one, and possibly a minus
sign. -/
def Text.readPlainInteger? (s : Text) : Option Int :=
  let (negative, digits) : Bool × Text :=
    if s.head? = some (CodePoint.ofChar '-') then (true, s.drop 1) else (false, s)
  if digits.isAsciiDigits && s.length ≤ digitLimit &&
      (digits.length = 1 || digits.head? ≠ some (CodePoint.ofChar '0')) then
    some (signedInt negative digits.asciiNumber)
  else none

/-- The text begins with more digits than are read, without anything before them but a minus
sign. -/
def Text.beginsTooLong (s : Text) : Bool :=
  let sign := s.takeWhile fun c => c = CodePoint.ofChar '-'
  let digits := (s.drop sign.length).takeWhile CodePoint.isAsciiDigit
  sign.length ≤ 1 && digits.head?.any CodePoint.isCountingDigit &&
    digitLimit < sign.length + digits.length

/-- The integer that a text spells: ASCII digits with underscores between them, a sign before
and a fraction of zeros behind. -/
def integerOfText (s : Text) : Except ValueDefect Int :=
  if s.any CodePoint.isSurrogate then .error .textUnicode
  else if s.beginsTooLong then .error .integerSize
  else match s.plainInteger?.bind Text.readPlainInteger? with
    | some n => .ok n
    | none => .error .integerText

def integerOf : Json → Except ValueDefect Int
  | .integer n => .ok n
  | .bool b => .ok (if b then 1 else 0)
  | .float x =>
      if !x.isFinite then .error .notFinite
      else if !x.isIntegral then .error .integerFraction
      else if -wholeDoubleBound < x.truncated && x.truncated < wholeDoubleBound then
        .ok x.truncated
      else .error .integerSize
  | .string s => integerOfText s
  | _ => .error .integerType

def floatOfText (s : Text) : Except ValueDefect Binary64 :=
  if s.any CodePoint.isSurrogate then .error .textUnicode
  else match readBareFloat? (s.trimBy CodePoint.isWhiteSpace) with
  | some x => .ok x
  | none => match s.withoutUnderscores?.bind readBareFloat? with
    | some x => .ok x
    | none => .error .floatText

def floatOf : Json → Except ValueDefect Binary64
  | .float x => .ok x
  | .integer n => match Binary64.ofInt? n with
    | some x => .ok x
    | none => .error .floatType
  | .bool b => .ok (Binary64.ofRatio false (if b then 1 else 0) 1)
  | .string s => floatOfText s
  | _ => .error .floatType

def textOf : Json → Except ValueDefect Text
  | .string s => .ok s
  | _ => .error .textType

end SearchShell
