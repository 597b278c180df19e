import SearchShell.Json.Basic
import SearchShell.Number.FloatText
import SearchShell.Text.Quoted

/-!
# Reading JSON

A reader takes a text and gives a value and the rest.  It fails with what it
missed and with how much was left, from which the place follows.  The grammar is
that of JSON with three more words for numbers that are not finite.
-/

set_option autoImplicit false

namespace SearchShell

inductive JsonDefect where
  | expectedValue
  | expectedName
  | expectedColon
  | expectedComma
  | openString
  | controlCharacter
  | badEscape
  | badUnicodeEscape
  | extraData
  | byteOrderMark
deriving DecidableEq

inductive JsonContainer where
  | array
  | object
deriving DecidableEq

structure TextPlace where
  line : Nat
  column : Nat
  offset : Nat
deriving DecidableEq

inductive JsonFault where
  | malformed (defect : JsonDefect) (place : TextPlace)
  | tooDeep (container : JsonContainer)
  | tooLong (digits : Nat)
deriving DecidableEq

namespace JsonDefect

def message : JsonDefect → Text
  | expectedValue => text "Expecting value"
  | expectedName => text "Expecting property name enclosed in double quotes"
  | expectedColon => text "Expecting ':' delimiter"
  | expectedComma => text "Expecting ',' delimiter"
  | openString => text "Unterminated string starting at"
  | controlCharacter => text "Invalid control character at"
  | badEscape => text "Invalid \\escape"
  | badUnicodeEscape => text "Invalid \\uXXXX escape"
  | extraData => text "Extra data"
  | byteOrderMark => text "Unexpected UTF-8 BOM (decode using utf-8-sig)"

end JsonDefect

namespace TextPlace

def after (before : Text) : TextPlace where
  line := before.count (CodePoint.ofChar '\n') + 1
  column := (before.reverse.takeWhile fun c => c ≠ CodePoint.ofChar '\n').length + 1
  offset := before.length

end TextPlace

namespace JsonFault

def message : JsonFault → Text
  | malformed defect place =>
      defect.message ++ text ": line " ++ Text.ofNat place.line ++ text " column " ++
        Text.ofNat place.column ++ text " (char " ++ Text.ofNat place.offset ++ text ")"
  | tooDeep .array =>
      text "maximum recursion depth exceeded while decoding a JSON array from a unicode string"
  | tooDeep .object =>
      text "maximum recursion depth exceeded while decoding a JSON object from a unicode string"
  | tooLong digits => (IntegerFault.tooLong digits).message

end JsonFault

namespace JsonReader

/-- A failure inside a text, with the number of code points that were left. -/
inductive Failure where
  | malformed (defect : JsonDefect) (left : Nat)
  | tooDeep (container : JsonContainer)
  | tooLong (digits : Nat)
deriving DecidableEq

/-- Reads the beginning of a text and gives what is left. -/
abbrev Reader (α : Type) := Text → Except Failure (α × Text)

/-- How deeply collections may nest in what a command and its answer hold.  Each takes one of the
thousand calls that can be inside one another; the others are in progress where a command has its
payload read when nothing runs but the command.  What else runs would lower the limit, and so do the
one or two calls more around the reading of an answer. -/
def nestingLimit : Nat := 992

def isSpace (c : CodePoint) : Bool :=
  c.val = 0x20 || c.val = 0x09 || c.val = 0x0A || c.val = 0x0D

def skipSpace (s : Text) : Text := s.dropWhile isSpace

structure StringUnit where
  point : CodePoint
  byNumber : Bool

/-- Adjacent halves of a surrogate pair that are both spelled by number make one
code point. -/
def joinPairs : List StringUnit → Text
  | [] => []
  | [unit] => [unit.point]
  | first :: second :: rest =>
      if first.byNumber && second.byNumber && first.point.isHighSurrogate &&
          second.point.isLowSurrogate then
        CodePoint.ofSurrogates first.point second.point :: joinPairs rest
      else first.point :: joinPairs (second :: rest)

def escapeMeaning? (c : CodePoint) : Option CodePoint :=
  if c = CodePoint.ofChar '"' || c = CodePoint.ofChar '\\' || c = CodePoint.ofChar '/' then some c
  else if c = CodePoint.ofChar 'b' then some (Char.ofNat 0x08)
  else if c = CodePoint.ofChar 'f' then some (Char.ofNat 0x0C)
  else if c = CodePoint.ofChar 'n' then some '\n'
  else if c = CodePoint.ofChar 'r' then some '\r'
  else if c = CodePoint.ofChar 't' then some '\t'
  else none

/-- Four hexadecimal digits, which must not be the last thing in the text. -/
def readNumberEscape (s : Text) : Except Failure (StringUnit × Text) :=
  match s with
  | a :: b :: c :: d :: next :: rest =>
      match (Text.hexNumber? [a, b, c, d]).bind CodePoint.ofNat? with
      | some point => .ok (⟨point, true⟩, next :: rest)
      | none => .error (.malformed .badUnicodeEscape (s.length + 1))
  | _ => .error (.malformed .badUnicodeEscape (s.length + 1))

/-- What follows a backslash; `opening` is what was left at the opening quote. -/
def readEscape (opening : Nat) (s : Text) : Except Failure (StringUnit × Text) :=
  match s with
  | [] => .error (.malformed .openString opening)
  | letter :: rest =>
      if letter = CodePoint.ofChar 'u' then readNumberEscape rest
      else match escapeMeaning? letter with
        | some point => .ok (⟨point, false⟩, rest)
        | none => .error (.malformed .badEscape (s.length + 1))

def readUnit (opening : Nat) (first : CodePoint) (rest : Text) :
    Except Failure (StringUnit × Text) :=
  if first.val < 0x20 then .error (.malformed .controlCharacter (rest.length + 1))
  else if first = CodePoint.ofChar '\\' then readEscape opening rest
  else .ok (⟨first, false⟩, rest)

def readUnits (opening : Nat) : Nat → Reader (List StringUnit)
  | _, [] => .error (.malformed .openString opening)
  | 0, _ :: _ => .error (.malformed .openString opening)
  | fuel + 1, c :: rest =>
      if c = CodePoint.ofChar '"' then .ok ([], rest)
      else do
        let (unit, tail) ← readUnit opening c rest
        let (units, tail) ← readUnits opening fuel tail
        .ok (unit :: units, tail)

/-- A string whose opening quote has been read.  Each unit takes at least one code point. -/
def readString (s : Text) : Except Failure (Text × Text) := do
  let (units, tail) ← readUnits (s.length + 1) s.length s
  .ok (joinPairs units, tail)

def words : List (Text × Json) := [
  (text "null", .null), (text "true", .bool true), (text "false", .bool false),
  (text "NaN", .float .nan), (text "Infinity", .float (.infinite false)),
  (text "-Infinity", .float (.infinite true))]

/-- The digits before the point: a lone zero or a run that does not begin with one. -/
def splitWhole (s : Text) : Text × Text :=
  match s with
  | [] => ([], [])
  | c :: rest =>
      if c = CodePoint.ofChar '0' then ([c], rest)
      else (s.takeWhile CodePoint.isAsciiDigit, s.dropWhile CodePoint.isAsciiDigit)

/-- A point and the digits after it, if there is a digit. -/
def splitFraction? : Text → Option (Text × Text)
  | point :: digit :: rest =>
      if point = CodePoint.ofChar '.' && digit.isAsciiDigit then
        some (digit :: rest.takeWhile CodePoint.isAsciiDigit,
          rest.dropWhile CodePoint.isAsciiDigit)
      else none
  | _ => none

def splitExponent? : Text → Option (Int × Text)
  | mark :: rest =>
      if mark.toAsciiLower = CodePoint.ofChar 'e' then
        let (negative, unsigned) := Text.splitSign rest
        let digits : Text := unsigned.takeWhile CodePoint.isAsciiDigit
        if digits.isEmpty then none
        else some (signedInt negative digits.asciiNumber,
          unsigned.dropWhile CodePoint.isAsciiDigit)
      else none
  | [] => none

/-- A number: an integer, unless a fraction or an exponent follows its digits. -/
def readNumber (s : Text) : Except Failure (Json × Text) :=
  let (negative, unsigned) := match s with
    | [] => (false, [])
    | c :: rest => if c = CodePoint.ofChar '-' then (true, rest) else (false, c :: rest)
  let (whole, afterWhole) := splitWhole unsigned
  if whole.isEmpty then .error (.malformed .expectedValue s.length)
  else
    let fraction := splitFraction? afterWhole
    let afterFraction := match fraction with
      | some (_, tail) => tail
      | none => afterWhole
    let exponent := splitExponent? afterFraction
    let tail := match exponent with
      | some (_, tail) => tail
      | none => afterFraction
    if fraction.isNone && exponent.isNone then
      if whole.length > digitLimit then .error (.tooLong whole.length)
      else .ok (.integer (signedInt negative (Text.asciiNumber whole)), tail)
    else
      let literal : FloatLiteral :=
        ⟨whole, (fraction.map Prod.fst).getD [], (exponent.map Prod.fst).getD 0⟩
      .ok (.float (literal.value negative), tail)

def readScalar (s : Text) : Except Failure (Json × Text) :=
  match words.find? fun word => word.1.isPrefixOf s with
  | some (word, value) => .ok (value, s.drop word.length)
  | none => readNumber s

/-- After an item: whether the collection ends here, or another item follows. -/
def readContinuation (closing : CodePoint) (s : Text) : Except Failure (Bool × Text) :=
  match skipSpace s with
  | [] => .error (.malformed .expectedComma 0)
  | c :: rest =>
      if c = closing then .ok (true, rest)
      else if c = CodePoint.ofChar ',' then .ok (false, skipSpace rest)
      else .error (.malformed .expectedComma (rest.length + 1))

def readName (s : Text) : Except Failure (Text × Text) :=
  match s with
  | [] => .error (.malformed .expectedName 0)
  | c :: rest =>
      if c = CodePoint.ofChar '"' then do
        let (name, tail) ← readString rest
        match skipSpace tail with
        | [] => .error (.malformed .expectedColon 0)
        | c :: rest =>
            if c = CodePoint.ofChar ':' then .ok (name, skipSpace rest)
            else .error (.malformed .expectedColon (rest.length + 1))
      else .error (.malformed .expectedName (rest.length + 1))

def readItems (readValue : Reader Json) : Nat → Reader (List Json)
  | 0, s => .error (.malformed .expectedValue s.length)
  | fuel + 1, s => do
      let (item, tail) ← readValue s
      let (closed, tail) ← readContinuation ']' tail
      if closed then .ok ([item], tail)
      else
        let (items, tail) ← readItems readValue fuel tail
        .ok (item :: items, tail)

def readMembers (readValue : Reader Json) : Nat → Reader (List (Text × Json))
  | 0, s => .error (.malformed .expectedName s.length)
  | fuel + 1, s => do
      let (name, tail) ← readName s
      let (value, tail) ← readValue tail
      let (closed, tail) ← readContinuation '}' tail
      if closed then .ok ([(name, value)], tail)
      else
        let (members, tail) ← readMembers readValue fuel tail
        .ok ((name, value) :: members, tail)

def readArray (readValue : Reader Json) (fuel : Nat) : Reader Json := fun s =>
  match skipSpace s with
  | [] => .error (.malformed .expectedValue 0)
  | c :: rest =>
      if c = CodePoint.ofChar ']' then .ok (.array [], rest)
      else do
        let (items, tail) ← readItems readValue fuel (c :: rest)
        .ok (.array items, tail)

/-- What follows an opening brace.  Of two members with one name the later value
takes the earlier place. -/
def readObject (readValue : Reader Json) (fuel : Nat) : Reader Json := fun s =>
  match skipSpace s with
  | [] => .error (.malformed .expectedName 0)
  | c :: rest =>
      if c = CodePoint.ofChar '}' then .ok (.object [], rest)
      else do
        let (members, tail) ← readMembers readValue fuel (c :: rest)
        .ok (.object (Members.ofList members), tail)

/-- A value that nests at most `depth` collections, each of at most `fuel` items. -/
def readValue (fuel : Nat) : Nat → Reader Json
  | _, [] => .error (.malformed .expectedValue 0)
  | 0, c :: rest =>
      if c = CodePoint.ofChar '"' then do
        let (s, tail) ← readString rest
        .ok (.string s, tail)
      else if c = CodePoint.ofChar '[' then .error (.tooDeep .array)
      else if c = CodePoint.ofChar '{' then .error (.tooDeep .object)
      else readScalar (c :: rest)
  | depth + 1, c :: rest =>
      if c = CodePoint.ofChar '"' then do
        let (s, tail) ← readString rest
        .ok (.string s, tail)
      else if c = CodePoint.ofChar '[' then readArray (readValue fuel depth) fuel rest
      else if c = CodePoint.ofChar '{' then readObject (readValue fuel depth) fuel rest
      else readScalar (c :: rest)

/-- A whole text: one value with space around it, that nests at most `depth` collections. -/
def readWhole (depth : Nat) (s : Text) : Except Failure Json := do
  let (value, tail) ← readValue s.length depth (skipSpace s)
  match skipSpace tail with
  | [] => .ok value
  | _ :: rest => .error (.malformed .extraData (rest.length + 1))

def Failure.inText (s : Text) : Failure → JsonFault
  | .malformed defect left => .malformed defect (TextPlace.after (s.take (s.length - left)))
  | .tooDeep container => .tooDeep container
  | .tooLong digits => .tooLong digits

end JsonReader

namespace Json

def readDecoded (depth : Nat) (s : Text) : Except JsonFault Json :=
  match JsonReader.readWhole depth s with
  | .ok value => .ok value
  | .error failure => .error (failure.inText s)

/-- Reads a text, which must not begin with a byte order mark. -/
def read (depth : Nat) (s : Text) : Except JsonFault Json :=
  if s.head? = some CodePoint.byteOrderMark then
    .error (.malformed .byteOrderMark (TextPlace.after []))
  else readDecoded depth s

end Json

end SearchShell
