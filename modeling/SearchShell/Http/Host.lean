import SearchShell.Domain.Label
import SearchShell.Http.Path
import SearchShell.Http.UrlFault
import SearchShell.Number.Integer
import SearchShell.Text.Lower

/-!
# Hosts

A host is four numbers between dots, a long address between brackets, or a name.  Names are
written in lower case and in ASCII.
-/

set_option autoImplicit false

namespace SearchShell

namespace Host

/-! ## Addresses of four numbers -/

/-- The states that can follow a code point when four runs of digits are looked for with any
code point between two of them.  Run `n` is awaited in state `2 n` and read in the next. -/
def followingStates (states : List Nat) (c : CodePoint) : List Nat :=
  (List.range 8).filter fun state =>
    if state % 2 = 1 then c.isAsciiDigit && (states.contains state || states.contains (state - 1))
    else 0 < state && states.contains (state - 1)

def looksNumeric (host : Text) : Bool := (host.foldl followingStates [0]).contains 7

def isOctet (part : Text) : Bool :=
  part.isAsciiDigits && part.length ≤ 3 && part.asciiNumber ≤ 255 &&
    (part.length = 1 || part.head? ≠ some (CodePoint.ofChar '0'))

def isShortAddress (host : Text) : Bool :=
  let parts := host.splitOn (CodePoint.ofChar '.')
  parts.length = 4 && parts.all isOctet

/-! ## Long addresses -/

def isGroup (part : Text) : Bool :=
  !part.isEmpty && part.length ≤ 4 && part.all fun c => c.hexValue?.isSome

/-- The parts between colons.  A short address at the end stands for two groups. -/
def groups? (address : Text) : Option (List Text) :=
  let parts := address.splitOn (CodePoint.ofChar ':')
  let last := parts.getLast?.getD []
  if last.contains (CodePoint.ofChar '.') then
    if isShortAddress last then some (parts.dropLast ++ [text "0", text "0"]) else none
  else some parts

/-- The groups on one side of the place where groups of zeros are left out; at an end of the
address an empty part shows that there are none. -/
def sideLength? (atEnd : Option Text) (side : List Text) : Option Nat :=
  match atEnd with
  | some [] => if side.length = 1 then some 0 else none
  | _ => if side.all isGroup then some side.length else none

/-- Eight groups of hexadecimal digits between colons.  Once, groups of zeros can be left
out, which two colons show. -/
def areGroups (parts : List Text) : Bool :=
  let inner := parts.tail.dropLast
  let before := inner.takeWhile fun part => !part.isEmpty
  if before.length = inner.length then parts.length = 8 && parts.all isGroup
  else
    let high := parts.take (before.length + 1)
    let low := parts.drop (before.length + 2)
    match sideLength? high.head? high, sideLength? low.getLast? low with
    | some m, some n => m + n < 8
    | _, _ => false

/-- A long address, possibly with a zone after a percent sign. -/
def isLongAddress (host : Text) : Bool :=
  let address := host.takeWhile fun c => c ≠ CodePoint.ofChar '%'
  let zone := host.drop (address.length + 1)
  let hasGoodZone := address.length = host.length ||
    (!zone.isEmpty && !zone.contains (CodePoint.ofChar '%'))
  match groups? address with
  | some parts => hasGoodZone && 3 ≤ parts.length && areGroups parts
  | none => false

/-! ## Names -/

def isPlain (c : CodePoint) : Bool :=
  c.isAsciiLetter || c.isAsciiDigit || (text "-._~!$&'()*+,;=\"\x60\x7b\x7d%|\\").contains c

def asciiName (name : Text) : Text :=
  name.toAsciiLower.flatMap fun c => if isPlain c then [c] else Path.percent (UInt8.ofNat c.val)

def isBracketed (host : Text) : Bool :=
  2 ≤ host.length && host.head? = some (CodePoint.ofChar '[') &&
    host.getLast? = some (CodePoint.ofChar ']')

/-- The host in its normal form; a long address goes without its brackets. -/
def normal (host : Text) : Except UrlFault Text :=
  if host.isEmpty then .ok []
  else if looksNumeric host then
    if isShortAddress host then .ok host else .error (.shortAddress host)
  else if isBracketed host then
    let address := (host.drop 1).dropLast
    if isLongAddress address then .ok address else .error (.longAddress host)
  else if host.all CodePoint.isAscii then .ok (asciiName host)
  else match Domain.write host.toLower with
    | .ok name => .ok name
    | .error _ => .error (.domainName host)

/-- What is wrong with a name whose first label stands for another one. -/
def nameFault? (host : Text) : Option LabelFault :=
  if Domain.punycodeMark.isPrefixOf host then
    match Domain.read host with
    | .ok _ => none
    | .error fault => some fault
  else none

end Host

end SearchShell
