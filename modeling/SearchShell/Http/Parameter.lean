import SearchShell.Charset.Registry
import SearchShell.Number.Integer
import SearchShell.Text.Basic

/-!
# Parameters of headers

A header can have parameters after its value: names and values between semicolons.  A value
can stand between quotes, and it can be given in numbered parts, some of them escaped.  The
content type says by such a parameter in which charset a body is.
-/

set_option autoImplicit false

namespace SearchShell

namespace Http

structure Parameter where
  name : Text
  value : Text
deriving DecidableEq

namespace Parameter

/-- Splits at the semicolons that no open quote precedes.  A quote after a backslash neither
opens nor closes. -/
def split (piece : Text) (isOpen : Bool) : Text → List Text
  | [] => [piece]
  | c :: rest =>
      if c = CodePoint.ofChar ';' && !isOpen then piece :: split [] false rest
      else
        let turns := c = CodePoint.ofChar '"' && piece.getLast? ≠ some (CodePoint.ofChar '\\')
        split (piece ++ [c]) (if turns then !isOpen else isOpen) rest

def unescape (escaped : CodePoint) : Text → Text
  | a :: b :: rest =>
      if a = CodePoint.ofChar '\\' && b = escaped then b :: unescape escaped rest
      else a :: unescape escaped (b :: rest)
  | s => s

def isEnclosed (opening closing : Char) (s : Text) : Bool :=
  2 ≤ s.length && s.head? = some (CodePoint.ofChar opening) &&
    s.getLast? = some (CodePoint.ofChar closing)

def unquote (s : Text) : Text :=
  let inner := (s.drop 1).dropLast
  if isEnclosed '"' '"' s then unescape '"' (unescape '\\' inner)
  else if isEnclosed '<' '>' s then inner
  else s

/-- The parameter that a piece spells; without an equals sign its value is empty. -/
def ofPiece (piece : Text) : Parameter :=
  let name := piece.takeWhile fun c => c ≠ CodePoint.ofChar '='
  if name.length < piece.length then
    ⟨(Text.trim name).toAsciiLower, unquote (Text.trim (piece.drop (name.length + 1)))⟩
  else ⟨Text.trim name, []⟩

/-- What stands between the semicolons of a header; the first is its proper value. -/
def ofHeader (header : Text) : List Parameter := (split [] false header).map ofPiece

def unescapePercent : Text → Text
  | c :: high :: low :: rest =>
      let escaped := if c = CodePoint.ofChar '%' then Text.hexNumber? [high, low] else none
      match escaped.bind CodePoint.ofNat? with
      | some point => point :: unescapePercent rest
      | none => c :: unescapePercent (high :: low :: rest)
  | s => s

end Parameter

structure ParameterPart where
  name : Text
  number : Option Nat
  value : Text
  /-- The value is escaped with percent signs. -/
  isEscaped : Bool
deriving DecidableEq

namespace ParameterPart

def isWord (c : CodePoint) : Bool :=
  c.isAsciiLetter || c.isAsciiDigit || c = CodePoint.ofChar '_'

/-- A parameter is a part when an asterisk follows its name, and then possibly a number and
another asterisk. -/
def ofParameter? (parameter : Parameter) : Option ParameterPart :=
  let name := parameter.name.takeWhile isWord
  let isEscaped := parameter.name.getLast? = some (CodePoint.ofChar '*')
  match name.isEmpty, parameter.name.drop name.length with
  | false, star :: rest =>
      if star ≠ CodePoint.ofChar '*' then none
      else if rest.isEmpty then some ⟨name, none, parameter.value, isEscaped⟩
      else
        let digits : Text := if isEscaped then rest.dropLast else rest
        if digits.isAsciiDigits then
          some ⟨name, some digits.asciiNumber, parameter.value, isEscaped⟩
        else none
  | _, _ => none

def precedes (a b : ParameterPart) : Bool :=
  if a.number ≠ b.number then a.number.getD 0 < b.number.getD 0
  else if a.value ≠ b.value then a.value.precedes b.value
  else !a.isEscaped && b.isEscaped

def content (part : ParameterPart) : Text :=
  if part.isEscaped then Parameter.unescapePercent part.value else part.value

/-- Parts can be put in order only if all have numbers or none has. -/
def orderFault? : List ParameterPart → Option CharsetFault
  | a :: b :: rest =>
      if a.number.isSome = b.number.isSome then orderFault? (b :: rest)
      else some (.mixedParts b.number.isSome)
  | _ => none

/-- The parts of each name, in the order in which the names appear. -/
def grouped (parts : List ParameterPart) : List (List ParameterPart) :=
  (parts.map ParameterPart.name).eraseDups.map fun name =>
    parts.filter fun part => part.name = name

/-- The value that the parts of one name give together, and whether it is extended: then it
may begin with a charset and a language, each followed by a single quote. -/
def together (parts : List ParameterPart) : Text × Bool :=
  ((parts.mergeSort fun a b => !(precedes b a)).flatMap content, parts.any (·.isEscaped))

end ParameterPart

/-! ## The charset of a content type -/

/-- Reads octets that must all be as they should be.  Where no mark tells their order, the
least significant comes first. -/
def decodeStrictly? (octets : Octets) (charset : Charset) : Option Text :=
  let decoded := match charset, charset.decode octets with
    | .punycode, _ => Punycode.decode? (octets.map Charset.samePoint)
    | _, .ok s => some s
    | .utf16 none, .error _ => some (Utf16.decodeLenient .little octets)
    | .utf32 none, .error _ => some (Utf32.decodeLenient .little octets)
    | _, .error _ => none
  decoded.filter fun s => !s.contains CodePoint.replacement

/-- What an extended value stands for.  If its octets cannot be read in the charset that it
names, they are left as they are. -/
def extendedValue (value : Text) : Text :=
  let named := value.takeWhile fun c => c ≠ CodePoint.ofChar '\''
  let rest := value.drop (named.length + 1)
  let language := rest.takeWhile fun c => c ≠ CodePoint.ofChar '\''
  let (charsetName, content) : Text × Text :=
    if language.length < rest.length then (named, rest.drop (language.length + 1))
    else ([], value)
  let charset := if charsetName.isEmpty then some .ascii else Charset.ofName? charsetName
  (charset.bind (decodeStrictly? (content.map fun c => UInt8.ofNat c.val))).getD content

def asciiName (name : Text) : Option Text :=
  if name.all CodePoint.isAscii then some name.toAsciiLower else none

/-- The charset that a content type names.  Parameters given at once come before those that
are given in parts; the proper value of the header is looked at like a parameter. -/
def charsetName (contentType : Text) : Except CharsetFault (Option Text) :=
  match Parameter.ofHeader contentType with
  | [] => .ok none
  | first :: rest =>
      let whole := first :: rest.filter fun parameter =>
        (ParameterPart.ofParameter? parameter).isNone
      let groups := ParameterPart.grouped (rest.filterMap ParameterPart.ofParameter?)
      let isCharset (name : Text) : Bool := name.toAsciiLower = text "charset"
      match groups.findSome? ParameterPart.orderFault? with
      | some fault => .error fault
      | none => match whole.find? fun parameter => isCharset parameter.name with
          | some parameter => .ok (asciiName parameter.value)
          | none =>
              match groups.find? fun group => group.any fun part => isCharset part.name with
              | none => .ok none
              | some group =>
                  let (value, isExtended) := ParameterPart.together group
                  .ok (asciiName (if isExtended then extendedValue value else value))

def charsetOf (contentType : Option Text) : Except CharsetFault Charset :=
  match contentType with
  | none => .ok .utf8
  | some contentType => do
      match ← charsetName contentType with
      | none => .ok .utf8
      | some name =>
          if name.any fun c => c.val = 0 then .error .zeroInName
          else .ok ((Charset.ofName? name).getD .utf8)

end Http

end SearchShell
