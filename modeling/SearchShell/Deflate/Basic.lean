import SearchShell.Text.Encoding

/-!
# Compressed octets

Compressed octets are read bit by bit, the lowest bit of each octet first.  They may end too
early, which is no fault: what has been read by then counts.
-/

set_option autoImplicit false

namespace SearchShell

inductive DeflateFault where
  | headerCheck
  | method
  | windowSize
  | headerFlags
  | headerSum
  /-- The octets can be read only with others that are not known. -/
  | dictionary
  | blockType
  | storedLengths
  | tooManySymbols
  | codeLengths
  | lengthRepeat
  | noBlockEnd
  | literalCodes
  | distanceCodes
  | literalCode
  | distanceCode
  | distance
  | dataSum
  | lengthSum
deriving DecidableEq

namespace DeflateFault

def detail : DeflateFault → String
  | headerCheck => "incorrect header check"
  | method => "unknown compression method"
  | windowSize => "invalid window size"
  | headerFlags => "unknown header flags set"
  | headerSum => "header crc mismatch"
  | dictionary => ""
  | blockType => "invalid block type"
  | storedLengths => "invalid stored block lengths"
  | tooManySymbols => "too many length or distance symbols"
  | codeLengths => "invalid code lengths set"
  | lengthRepeat => "invalid bit length repeat"
  | noBlockEnd => "invalid code -- missing end-of-block"
  | literalCodes => "invalid literal/lengths set"
  | distanceCodes => "invalid distances set"
  | literalCode => "invalid literal/length code"
  | distanceCode => "invalid distance code"
  | distance => "invalid distance too far back"
  | dataSum => "incorrect data check"
  | lengthSum => "incorrect length check"

def message (fault : DeflateFault) : Text :=
  if fault = dictionary then text "Error 2 while decompressing data"
  else text "Error -3 while decompressing data: " ++ text fault.detail

end DeflateFault

namespace Deflate

abbrev Bits := List Bool

inductive Halt where
  | tooShort
  | fault (fault : DeflateFault)

def bits (octets : Octets) : Bits :=
  octets.flatMap fun octet => (List.range 8).map octet.toNat.testBit

def takeNumber : (count : Nat) → Bits → Except Halt (Nat × Bits)
  | 0, rest => .ok (0, rest)
  | _ + 1, [] => .error .tooShort
  | count + 1, bit :: rest => do
      let (high, rest) ← takeNumber count rest
      return (bit.toNat + 2 * high, rest)

def align (rest : Bits) : Bits := rest.drop (rest.length % 8)

def takeOctets (count : Nat) (octets : Octets) : Except Halt (Octets × Octets) :=
  if count ≤ octets.length then .ok (octets.take count, octets.drop count) else .error .tooShort

def littleNumber (octets : Octets) : Nat :=
  octets.foldr (fun octet n => octet.toNat + 256 * n) 0

/-! ## Checksums -/

def adler (octets : Octets) : Nat :=
  let (low, high) := octets.foldl (fun (low, high) octet =>
    let low := (low + octet.toNat) % 65521
    (low, (high + low) % 65521)) (1, 0)
  high * 65536 + low

def cyclicBit (sum : UInt32) : UInt32 :=
  if sum &&& 1 = 1 then (sum >>> 1) ^^^ 0xEDB88320 else sum >>> 1

def cyclic (octets : Octets) : Nat :=
  let sum := octets.foldl (fun sum octet =>
    (List.range 8).foldl (fun sum _ => cyclicBit sum) (sum ^^^ octet.toUInt32)) 0xFFFFFFFF
  (sum ^^^ 0xFFFFFFFF).toNat

end Deflate

/-! ## Codes

A code gives each symbol a number of bits.  The codes of one length follow each other in the
order of the symbols, and all of them follow those that are shorter. -/

namespace Deflate

structure Code where
  /-- How many codes there are of each length, from one up to the longest. -/
  counts : List Nat
  /-- The symbols in the order of their codes. -/
  symbols : Array Nat

namespace Code

def symbolsOf (lengths : List Nat) (length : Nat) : List Nat :=
  lengths.zipIdx.filterMap fun (given, symbol) => if given = length then some symbol else none

/-- The code in which each symbol has the given length; no length means no code. -/
def ofLengths (lengths : List Nat) : Code :=
  let longest := lengths.foldl max 0
  let bySize := (List.range longest).map fun n => symbolsOf lengths (n + 1)
  ⟨bySize.map List.length, bySize.flatten.toArray⟩

/-- How much room the codes leave, counted in codes of the greatest length; `none` if they do
not fit. -/
def room? (counts : List Nat) : Option Nat :=
  counts.foldl (fun room count => room.bind fun room =>
    if count ≤ 2 * room then some (2 * room - count) else none) (some 1)

/-- All room is used, or there is no code. -/
def isComplete (code : Code) : Bool := code.counts.isEmpty || room? code.counts = some 0

/-- All room is used, or there is at most one code, which has one bit. -/
def isUsable (code : Code) : Bool :=
  code.isComplete || (code.counts.length = 1 && (room? code.counts).isSome)

inductive Reading where
  | symbol (symbol : Nat) (rest : Bits)
  | unknown
  | tooShort

/-- Looks for the code among those with one bit more than the bits that were read, which spell
`value`.  The first of them is `first`, for the symbol at `index`. -/
def readFrom (symbols : Array Nat) :
    (counts : List Nat) → (value first index : Nat) → Bits → Reading
  | [], _, _, _, _ => .unknown
  | _ :: _, _, _, _, [] => .tooShort
  | count :: longer, value, first, index, bit :: rest =>
      let value := 2 * value + bit.toNat
      if value < first + count then .symbol (symbols[index + (value - first)]?.getD 0) rest
      else readFrom symbols longer value (2 * (first + count)) (index + count) rest

/-- Reads one symbol.  A single bit is looked at even if there is no code at all. -/
def read (code : Code) (rest : Bits) : Reading :=
  readFrom code.symbols (if code.counts.isEmpty then [0] else code.counts) 0 0 0 rest

end Code

end Deflate

end SearchShell
