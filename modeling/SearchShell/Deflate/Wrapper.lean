import SearchShell.Deflate.Block

/-!
# Wrappers

Compressed octets alone, or between a header and sums that tell whether all is well.
-/

set_option autoImplicit false

namespace SearchShell

namespace Deflate

/-- What was read before the octets ended, unless there was a fault. -/
def Inflation.octets (inflation : Inflation) (verify : Octets → Bits → Except Halt Unit) :
    Except DeflateFault Octets :=
  let output := inflation.output.toList
  match inflation.ending with
  | .error (.fault fault) => .error fault
  | .error .tooShort => .ok output
  | .ok rest => match verify output (align rest) with
      | .error (.fault fault) => .error fault
      | _ => .ok output

def expandRaw (octets : Octets) : Except DeflateFault Octets :=
  (inflate (bits octets)).octets fun _ _ => .ok ()

/-- The octets after a header, or what it comes to if there are none. -/
def afterHeader (header : Except Halt Octets) (read : Octets → Except DeflateFault Octets) :
    Except DeflateFault Octets :=
  match header with
  | .ok rest => read rest
  | .error .tooShort => .ok []
  | .error (.fault fault) => .error fault

/-! ## Zlib -/

def zlibHeader (octets : Octets) : Except Halt Octets := do
  let (header, rest) ← takeOctets 2 octets
  let number := header.foldl (fun n octet => 256 * n + octet.toNat) 0
  let first := number / 256
  if number % 31 ≠ 0 then .error (.fault .headerCheck)
  else if first % 16 ≠ 8 then .error (.fault .method)
  else if 7 < first / 16 then .error (.fault .windowSize)
  else if number.testBit 5 then do
    let _ ← takeOctets 4 rest
    .error (.fault .dictionary)
  else return rest

def verifyAdler (output : Octets) (rest : Bits) : Except Halt Unit := do
  let octet (rest : Bits) : Except Halt (Nat × Bits) := takeNumber 8 rest
  let (a, rest) ← octet rest
  let (b, rest) ← octet rest
  let (c, rest) ← octet rest
  let (d, _) ← octet rest
  if ((a * 256 + b) * 256 + c) * 256 + d = adler output then return ()
  else .error (.fault .dataSum)

def expandZlib (octets : Octets) : Except DeflateFault Octets :=
  afterHeader (zlibHeader octets) fun rest => (inflate (bits rest)).octets verifyAdler

/-! ## Gzip -/

def dropName (octets : Octets) : Except Halt Octets :=
  let rest := octets.dropWhile fun octet => octet ≠ 0
  if rest.isEmpty then .error .tooShort else .ok (rest.drop 1)

def hasPart (flags : UInt8) (part : Nat) : Bool := flags.toNat.testBit part

/-- The parts of a header that are there only if the flags say so. -/
def optionalParts (whole : Octets) (flags : UInt8) (rest : Octets) : Except Halt Octets := do
  let rest ← if hasPart flags 2 then do
      let (length, rest) ← takeOctets 2 rest
      let (_, rest) ← takeOctets (littleNumber length) rest
      pure rest
    else pure rest
  let rest ← if hasPart flags 3 then dropName rest else pure rest
  let rest ← if hasPart flags 4 then dropName rest else pure rest
  if hasPart flags 1 then
    let (sum, after) ← takeOctets 2 rest
    let header := whole.take (whole.length - rest.length)
    if littleNumber sum = cyclic header % 65536 then return after
    else .error (.fault .headerSum)
  else return rest

def gzipHeader (octets : Octets) : Except Halt Octets := do
  let (mark, rest) ← takeOctets 2 octets
  if mark ≠ [0x1F, 0x8B] then .error (.fault .headerCheck)
  else
    let (kind, rest) ← takeOctets 2 rest
    let flags := kind[1]?.getD 0
    if kind.head? ≠ some 8 then .error (.fault .method)
    else if 32 ≤ flags then .error (.fault .headerFlags)
    else
      let (_, rest) ← takeOctets 6 rest
      optionalParts octets flags rest

def verifyGzip (output : Octets) (rest : Bits) : Except Halt Unit := do
  let (sum, rest) ← takeNumber 32 rest
  if sum ≠ cyclic output then .error (.fault .dataSum)
  else
    let (length, _) ← takeNumber 32 rest
    if length ≠ output.length % 4294967296 then .error (.fault .lengthSum) else return ()

def expandGzip (octets : Octets) : Except DeflateFault Octets :=
  afterHeader (gzipHeader octets) fun rest => (inflate (bits rest)).octets verifyGzip

end Deflate

end SearchShell
