import SearchShell.Deflate.Basic

/-!
# Blocks

Compressed octets come in blocks.  A block holds octets as they are, or codes for octets and
for repetitions of what was there before.
-/

set_option autoImplicit false

namespace SearchShell

namespace Deflate

/-- What has been read, and the bits that are left or why there are none. -/
structure Inflation where
  output : Array UInt8
  ending : Except Halt Bits

/-- The number that a symbol begins with, and how many more bits add to it. -/
structure Span where
  base : Nat
  extra : Nat

/-- The lengths of repetitions, from symbol 257 on. -/
def lengthSpans : List Span := [
  ⟨3, 0⟩, ⟨4, 0⟩, ⟨5, 0⟩, ⟨6, 0⟩, ⟨7, 0⟩, ⟨8, 0⟩, ⟨9, 0⟩, ⟨10, 0⟩, ⟨11, 1⟩, ⟨13, 1⟩, ⟨15, 1⟩,
  ⟨17, 1⟩, ⟨19, 2⟩, ⟨23, 2⟩, ⟨27, 2⟩, ⟨31, 2⟩, ⟨35, 3⟩, ⟨43, 3⟩, ⟨51, 3⟩, ⟨59, 3⟩, ⟨67, 4⟩,
  ⟨83, 4⟩, ⟨99, 4⟩, ⟨115, 4⟩, ⟨131, 5⟩, ⟨163, 5⟩, ⟨195, 5⟩, ⟨227, 5⟩, ⟨258, 0⟩]

def distanceSpans : List Span := [
  ⟨1, 0⟩, ⟨2, 0⟩, ⟨3, 0⟩, ⟨4, 0⟩, ⟨5, 1⟩, ⟨7, 1⟩, ⟨9, 2⟩, ⟨13, 2⟩, ⟨17, 3⟩, ⟨25, 3⟩, ⟨33, 4⟩,
  ⟨49, 4⟩, ⟨65, 5⟩, ⟨97, 5⟩, ⟨129, 6⟩, ⟨193, 6⟩, ⟨257, 7⟩, ⟨385, 7⟩, ⟨513, 8⟩, ⟨769, 8⟩,
  ⟨1025, 9⟩, ⟨1537, 9⟩, ⟨2049, 10⟩, ⟨3073, 10⟩, ⟨4097, 11⟩, ⟨6145, 11⟩, ⟨8193, 12⟩, ⟨12289, 12⟩,
  ⟨16385, 13⟩, ⟨24577, 13⟩]

def Span.read (span : Span) (rest : Bits) : Except Halt (Nat × Bits) := do
  let (more, rest) ← takeNumber span.extra rest
  return (span.base + more, rest)

def readSymbol (code : Code) (fault : DeflateFault) (rest : Bits) : Except Halt (Nat × Bits) :=
  match code.read rest with
  | .symbol symbol rest => .ok (symbol, rest)
  | .unknown => .error (.fault fault)
  | .tooShort => .error .tooShort

def repeatFrom (distance : Nat) : (count : Nat) → Array UInt8 → Array UInt8
  | 0, output => output
  | count + 1, output =>
      repeatFrom distance count (output.push (output[output.size - distance]?.getD 0))

def readRepetition (distances : Code) (symbol : Nat) (output : Array UInt8) (rest : Bits) :
    Except Halt (Array UInt8 × Bits) :=
  match lengthSpans[symbol - 257]? with
  | none => .error (.fault .literalCode)
  | some lengths => do
      let (length, rest) ← lengths.read rest
      let (symbol, rest) ← readSymbol distances .distanceCode rest
      match distanceSpans[symbol]? with
      | none => .error (.fault .distanceCode)
      | some spans => do
          let (distance, rest) ← spans.read rest
          if output.size < distance then .error (.fault .distance)
          else return (repeatFrom distance length output, rest)

def blockEnd : Nat := 256

def readCoded (literals distances : Code) :
    (fuel : Nat) → Array UInt8 → Bits → Inflation
  | 0, output, _ => ⟨output, .error .tooShort⟩
  | fuel + 1, output, rest => match readSymbol literals .literalCode rest with
      | .error halt => ⟨output, .error halt⟩
      | .ok (symbol, rest) =>
          if symbol < blockEnd then
            readCoded literals distances fuel (output.push (UInt8.ofNat symbol)) rest
          else if symbol = blockEnd then ⟨output, .ok rest⟩
          else match readRepetition distances symbol output rest with
            | .error halt => ⟨output, .error halt⟩
            | .ok (output, rest) => readCoded literals distances fuel output rest

/-! ## Kinds of blocks -/

def readPlain : (count : Nat) → Array UInt8 → Bits → Inflation
  | 0, output, rest => ⟨output, .ok rest⟩
  | count + 1, output, rest => match takeNumber 8 rest with
      | .error halt => ⟨output, .error halt⟩
      | .ok (n, rest) => readPlain count (output.push (UInt8.ofNat n)) rest

/-- Reads a block without codes, which tells its length twice. -/
def readStored (output : Array UInt8) (rest : Bits) : Inflation :=
  match takeNumber 32 (align rest) with
  | .error halt => ⟨output, .error halt⟩
  | .ok (lengths, rest) =>
      let length := lengths % 65536
      if length + lengths / 65536 = 65535 then readPlain length output rest
      else ⟨output, .error (.fault .storedLengths)⟩

/-- The code that is used unless a block brings its own. -/
def fixedLiterals : Code :=
  .ofLengths (List.replicate 144 8 ++ List.replicate 112 9 ++ List.replicate 24 7 ++
    List.replicate 8 8)

def fixedDistances : Code := .ofLengths (List.replicate 32 5)

/-- The order in which the lengths of the code for lengths are given. -/
def lengthOrder : List Nat := [16, 17, 18, 0, 8, 7, 9, 6, 10, 5, 11, 4, 12, 3, 13, 2, 14, 1, 15]

def readLengthCode (count : Nat) (rest : Bits) : Except Halt (Code × Bits) := do
  let (given, rest) ← (lengthOrder.take count).foldlM (fun (given, rest) symbol => do
    let (length, rest) ← takeNumber 3 rest
    return ((symbol, length) :: given, rest)) (([] : List (Nat × Nat)), rest)
  let code := Code.ofLengths ((List.range 19).map fun symbol => (given.lookup symbol).getD 0)
  if code.isComplete then return (code, rest) else .error (.fault .codeLengths)

/-- Reads a symbol of the code for lengths.  Where it has no codes, every bit is a zero. -/
def readLengthSymbol (code : Code) (rest : Bits) : Except Halt (Nat × Bits) :=
  if code.counts.isEmpty then (takeNumber 1 rest).map fun (_, rest) => (0, rest)
  else readSymbol code .codeLengths rest

/-- Reads a length, or the number of times that the last length or none is to be repeated. -/
def readLengths (code : Code) (lengths : List Nat) (rest : Bits) :
    Except Halt (List Nat × Bits) := do
  let (symbol, rest) ← readLengthSymbol code rest
  if symbol < 16 then return ([symbol], rest)
  else if symbol = 16 then
    let (more, rest) ← takeNumber 2 rest
    match lengths.getLast? with
    | none => .error (.fault .lengthRepeat)
    | some last => return (List.replicate (3 + more) last, rest)
  else if symbol = 17 then
    let (more, rest) ← takeNumber 3 rest
    return (List.replicate (3 + more) 0, rest)
  else
    let (more, rest) ← takeNumber 7 rest
    return (List.replicate (11 + more) 0, rest)

def readAllLengths (code : Code) (wanted : Nat) :
    (fuel : Nat) → List Nat → Bits → Except Halt (List Nat × Bits)
  | 0, lengths, rest => .ok (lengths, rest)
  | fuel + 1, lengths, rest =>
      if wanted ≤ lengths.length then .ok (lengths, rest)
      else do
        let (more, rest) ← readLengths code lengths rest
        if wanted < lengths.length + more.length then .error (.fault .lengthRepeat)
        else readAllLengths code wanted fuel (lengths ++ more) rest

def readCodes (rest : Bits) : Except Halt (Code × Code × Bits) := do
  let (literalCount, rest) ← (⟨257, 5⟩ : Span).read rest
  let (distanceCount, rest) ← (⟨1, 5⟩ : Span).read rest
  let (lengthCount, rest) ← (⟨4, 4⟩ : Span).read rest
  if 286 < literalCount || 30 < distanceCount then .error (.fault .tooManySymbols)
  else
    let (lengthCode, rest) ← readLengthCode lengthCount rest
    let wanted := literalCount + distanceCount
    let (lengths, rest) ← readAllLengths lengthCode wanted wanted [] rest
    let literals := Code.ofLengths (lengths.take literalCount)
    let distances := Code.ofLengths (lengths.drop literalCount)
    if lengths[blockEnd]?.getD 0 = 0 then .error (.fault .noBlockEnd)
    else if !literals.isUsable then .error (.fault .literalCodes)
    else if !distances.isUsable then .error (.fault .distanceCodes)
    else return (literals, distances, rest)

def readBlock (kind : Nat) (output : Array UInt8) (rest : Bits) : Inflation :=
  match kind with
  | 0 => readStored output rest
  | 1 => readCoded fixedLiterals fixedDistances (rest.length + 1) output rest
  | 2 => match readCodes rest with
      | .error halt => ⟨output, .error halt⟩
      | .ok (literals, distances, rest) =>
          readCoded literals distances (rest.length + 1) output rest
  | _ => ⟨output, .error (.fault .blockType)⟩

/-- Reads at most `fuel` blocks, of which one says that it is the last. -/
def readBlocks : (fuel : Nat) → Array UInt8 → Bits → Inflation
  | 0, output, _ => ⟨output, .error .tooShort⟩
  | fuel + 1, output, rest => match takeNumber 3 rest with
      | .error halt => ⟨output, .error halt⟩
      | .ok (head, rest) =>
          let block := readBlock (head / 2) output rest
          match block.ending with
          | .error _ => block
          | .ok rest => if head % 2 = 1 then block else readBlocks fuel block.output rest

def inflate (rest : Bits) : Inflation := readBlocks (rest.length + 1) #[] rest

end Deflate

end SearchShell
