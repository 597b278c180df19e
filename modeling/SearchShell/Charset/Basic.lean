import SearchShell.Text.Encoding

/-!
# Charsets

A charset says which text octets stand for.  Some that are registered are made for
something else than reading text, or read only octets of a certain form.
-/

set_option autoImplicit false

namespace SearchShell

inductive CharsetFault where
  /-- The octets must begin with a byte order mark. -/
  | noMark (family : Text)
  | undefined
  /-- The charset has nothing to put in the place of broken octets. -/
  | strictOnly
  | octetsOnly
  | textOnly
  | notAscii (octet : UInt8) (place : Nat)
  | zeroInName
  /-- The name is given in parts, of which some have numbers and some have none. -/
  | mixedParts (laterIsNumbered : Bool)
  /-- Too many octets wait for the end of an escape sequence. -/
  | tooLongWait
  /-- A set of characters is called up in a way that it does not allow. -/
  | stuck
deriving DecidableEq

namespace CharsetFault

def message : CharsetFault → Text
  | noMark family => family ++ text " stream does not start with BOM"
  | undefined => text "undefined encoding"
  | strictOnly => text "Unsupported error handling replace"
  | octetsOnly => []
  | textOnly => text "descriptor 'translate' for 'str' objects doesn't apply to a 'bytes' object"
  | notAscii octet place =>
      text "'ascii' codec can't decode byte 0x" ++ Text.hexDigits 2 octet.toNat ++
        text " in position " ++ Text.ofNat place ++ text ": ordinal not in range(128)"
  | zeroInName => text "embedded null character"
  | tooLongWait => text "pending buffer overflow"
  | stuck => text "internal codec error"
  | mixedParts laterIsNumbered =>
      let (later, earlier) :=
        if laterIsNumbered then ("int", "NoneType") else ("NoneType", "int")
      text "'<' not supported between instances of '" ++ text later ++ text "' and '" ++
        text earlier ++ text "'"

end CharsetFault

inductive JapaneseRepertoire where
  /-- JIS X 0208, and JIS X 0212 where there is room. -/
  | jis1990
  /-- JIS X 0213 in its first edition. -/
  | jis2000
  | jis2004
deriving DecidableEq

inductive SwitchedCharset where
  | japanese
  | japanese1
  | japanese2
  | japaneseExtended
  | japanese3
  | japanese2004
  | korean
deriving DecidableEq

inductive EastAsianCharset where
  | gb2312
  | gbk
  | gb18030
  | hz
  | big5
  | cp950
  | hongKong
  | eucJapanese (repertoire : JapaneseRepertoire)
  | shiftJapanese (repertoire : JapaneseRepertoire)
  | cp932
  | eucKorean
  | cp949
  | johab
  | switched (form : SwitchedCharset)
deriving DecidableEq

inductive Charset where
  | utf8
  | utf8Marked
  /-- UTF-16; where no order is given, a mark has to tell it. -/
  | utf16 (order : Option ByteOrder)
  /-- UTF-32; where no order is given, a mark has to tell it. -/
  | utf32 (order : Option ByteOrder)
  | utf7
  | ascii
  | latin1
  /-- One octet for each code point: the rows give the code points from octet `first` on,
  and the octets below are those of ASCII. -/
  | singleOctet (first : Nat) (rows : List String)
  /-- Escapes by number between octets that stand for themselves, and other escapes of
  string literals unless it is `raw`. -/
  | escapes (raw : Bool)
  | punycode
  | eastAsian (charset : EastAsianCharset)
  /-- Known, but no charset to read text in. -/
  | unreadable (fault : CharsetFault)
deriving DecidableEq

namespace Charset

/-- A charset with its names.  All are in lower case with underscores between words. -/
structure Entry where
  name : String
  aliases : List String
  charset : Charset

def samePoint (octet : UInt8) : CodePoint :=
  ⟨octet.toNat, Nat.lt_trans octet.toNat_lt (by decide)⟩

end Charset

/-! ## Planes of characters

Large sets of characters are laid out in rows of cells, and two numbers name each character. -/

/-- Characters in cells of a row that follow each other; U+FFFD stands in an empty cell. -/
structure Run where
  row : Nat
  cell : Nat
  points : String

/-- All cells that no run reaches are empty. -/
abbrev Plane := List Run

namespace Plane

def point? (plane : Plane) (row cell : Nat) : Option CodePoint :=
  plane.findSome? fun run =>
    if run.row = row && run.cell ≤ cell then
      ((text run.points)[cell - run.cell]?).filter fun c => c ≠ CodePoint.replacement
    else none

def text? (plane : Plane) (row cell : Nat) : Option Text :=
  (plane.point? row cell).map List.singleton

/-- What a cell stands for when every run is the text of a single cell. -/
def sequence? (plane : Plane) (row cell : Nat) : Option Text :=
  (plane.find? fun run => run.row = row && run.cell = cell).map fun run => text run.points

def missing (plane : Plane) (first last : Nat) : Array CodePoint :=
  let held := plane.foldl (fun held run => (text run.points).foldl (fun held c =>
      if first ≤ c.val then held.setIfInBounds (c.val - first) true else held) held)
    (Array.replicate (last + 1 - first) false)
  ((List.range held.size).filterMap fun n =>
    if held[n]?.getD false then none else CodePoint.ofNat? (first + n)).toArray

end Plane

/-! ## Reading a stream of octets

A charset whose code points take differing numbers of octets is read step by step.  A step
looks at the octets that are left, and a state can tell how they are meant. -/

inductive Reading (σ : Type) where
  /-- So many octets stand for these points. -/
  | points (points : Text) (used : Nat) (state : σ)
  | broken (used : Nat)
  /-- The octets end in the middle of something. -/
  | unfinished
  | stuck

namespace Reading

def one {σ : Type} (point : CodePoint) (state : σ) : Reading σ := .points [point] 1 state

/-- Text for a number of octets, of which `wrong` are broken if there is no such text. -/
def ofText? {σ : Type} (used wrong : Nat) (state : σ) : Option Text → Reading σ
  | some s => .points s used state
  | none => .broken wrong

end Reading

def waitingLimit : Nat := 8

/-- At most `fuel` steps.  What is broken or unfinished reads as U+FFFD. -/
def readStream {σ : Type} (step : σ → Octets → Reading σ) :
    (fuel : Nat) → σ → Octets → Except CharsetFault Text
  | 0, _, _ | _ + 1, _, [] => .ok []
  | fuel + 1, state, octet :: rest =>
      let octets := octet :: rest
      match step state octets with
      | .points points used state =>
          (readStream step fuel state (octets.drop used)).map fun s => points ++ s
      | .broken used =>
          (readStream step fuel state (octets.drop used)).map fun s => CodePoint.replacement :: s
      | .unfinished =>
          if octets.length ≤ waitingLimit then .ok [CodePoint.replacement]
          else .error .tooLongWait
      | .stuck => .error .stuck

def Charset.decodeStream {σ : Type} (step : σ → Octets → Reading σ) (state : σ)
    (octets : Octets) : Except CharsetFault Text :=
  readStream step octets.length state octets

end SearchShell
