import SearchShell.Number.Integer

/-!
# Binary floating point

The double format as a set of numbers: finite values are counted from zero
upwards, a sign apart, and every operation here is exact arithmetic on natural
numbers followed by one rounding to the nearest value, ties to even.
-/

set_option autoImplicit false

namespace SearchShell

/-- How many magnitudes in a row lie equally far apart. -/
def runLength : Nat := Nat.pow 2 52

def finiteMagnitudes : Nat := 2047 * runLength

/-- A double.  The rank of a finite magnitude says how many smaller ones there
are; zero has rank zero, with either sign. -/
inductive Binary64 where
  | nan
  | infinite (negative : Bool)
  | finite (negative : Bool) (rank : Fin finiteMagnitudes)
deriving DecidableEq

/-- A quotient rounded to the nearest integer, an exact half to the even one. -/
def divideHalfEven (n d : Nat) : Nat :=
  let low := n / d
  if 2 * (n % d) < d then low
  else if d < 2 * (n % d) then low + 1
  else low + low % 2

namespace Binary64

/-- How many of the smallest steps make up a magnitude, from its rank.  The first
two runs step by one, each later run by twice the step of the run before. -/
def units (rank : Nat) : Nat :=
  if rank / runLength = 0 then rank
  else (runLength + rank % runLength) * Nat.pow 2 (rank / runLength - 1)

def unitsPerOne : Nat := Nat.pow 2 1074

/-- The rank of the magnitude nearest to `n / d`, where a rank that no finite
magnitude has stands for infinity. -/
def nearestRank (n d : Nat) : Nat :=
  let shift := (n * unitsPerOne / d).log2 - 52
  shift * runLength + divideHalfEven (n * unitsPerOne) (d * Nat.pow 2 shift)

def ofRank (negative : Bool) (rank : Nat) : Binary64 :=
  if h : rank < finiteMagnitudes then finite negative ⟨rank, h⟩ else infinite negative

def ofRatio (negative : Bool) (n d : Nat) : Binary64 := ofRank negative (nearestRank n d)

/-- Every decimal exponent that matters lies within this bound of zero. -/
def exponentBound : Int := 340

/-- The double nearest to plus or minus `n * 10 ^ exponent`.  Magnitudes beyond
all doubles are settled by the number of digits alone. -/
def ofDecimal (negative : Bool) (n : Nat) (exponent : Int) : Binary64 :=
  let leading : Int := (Nat.toDigits 10 n).length + exponent
  if n = 0 || leading < -exponentBound then ofRank negative 0
  else if leading > exponentBound then infinite negative
  else match exponent with
    | .ofNat e => ofRatio negative (n * Nat.pow 10 e) 1
    | .negSucc e => ofRatio negative n (Nat.pow 10 (e + 1))

def zero : Binary64 := ofRank false 0

/-- The double nearest to an integer, unless that is infinity. -/
def ofInt? (n : Int) : Option Binary64 :=
  match ofRatio (n < 0) n.natAbs 1 with
  | finite negative rank => some (finite negative rank)
  | _ => none

def isZero : Binary64 → Bool
  | finite _ rank => rank.val = 0
  | _ => false

def isFinite : Binary64 → Bool
  | finite _ _ => true
  | _ => false

def isPositive : Binary64 → Bool
  | nan => false
  | infinite negative => !negative
  | finite negative rank => !negative && rank.val ≠ 0

def truncated : Binary64 → Int
  | finite negative rank =>
      let whole := units rank / unitsPerOne
      if negative then -(whole : Int) else whole
  | _ => 0

def isIntegral : Binary64 → Bool
  | finite _ rank => units rank % unitsPerOne = 0
  | _ => false

/-- Equality of the numbers: both zeros are equal, and not a number is equal to nothing. -/
def equals : Binary64 → Binary64 → Bool
  | nan, _ => false
  | _, nan => false
  | a, b => a = b || a.isZero && b.isZero

def equalsInt (x : Binary64) (n : Int) : Bool := x.isIntegral && x.truncated = n

end Binary64

/-! ## The shortest decimal that reads back

A finite double is written with the fewest significant digits that read back as
the same double.  For each number of digits the two neighbours on that decimal
grid are tried; of two that read back the nearer is taken, and of two equally
near the even one. -/

structure Decimal where
  significand : Nat
  exponent : Int
deriving DecidableEq

namespace Decimal

def toBinary64 (x : Decimal) (negative : Bool) : Binary64 :=
  Binary64.ofDecimal negative x.significand x.exponent

def withoutTrailingZeros : Nat → Decimal → Decimal
  | 0, x => x
  | fuel + 1, x =>
      if x.significand ≠ 0 && x.significand % 10 = 0 then
        withoutTrailingZeros fuel ⟨x.significand / 10, x.exponent + 1⟩
      else x

end Decimal

namespace Binary64

/-- The decimal exponent of the leading digit of `n / d`, which must be above
`10 ^ -330`. -/
def leadingExponent (n d : Nat) : Int :=
  (Nat.toDigits 10 (n * Nat.pow 10 330 / d)).length - 331

/-- A decimal next to `n / d` on the grid of the given exponent that reads back as the double of
the given rank.  Up to `digits` zeros at its end are dropped. -/
def neighbourOnGrid? (rank n d digits : Nat) (exponent : Int) : Option Decimal :=
  let (n, d) := match exponent with
    | .ofNat e => (n, d * Nat.pow 10 e)
    | .negSucc e => (n * Nat.pow 10 (e + 1), d)
  let candidate (significand : Nat) : Option Decimal :=
    let x := Decimal.withoutTrailingZeros digits ⟨significand, exponent⟩
    if x.toBinary64 false = ofRank false rank then some x else none
  match candidate (n / d), candidate (n / d + 1) with
  | some below, some above => some (if divideHalfEven n d = n / d then below else above)
  | some below, none => some below
  | none, other => other

/-- A decimal of at most `digits` significant digits next to `n / d` that reads
back as the double of the given rank. -/
def neighbour? (rank n d digits : Nat) : Option Decimal :=
  neighbourOnGrid? rank n d digits (leadingExponent n d - (digits - 1 : Nat))

def exactDecimal (rank : Nat) : Decimal := ⟨units rank * Nat.pow 5 1074, -1074⟩

/-- The shortest decimal that reads back as the double of this rank.  Seventeen
digits suffice for all of them. -/
def shortest (rank : Nat) : Decimal :=
  if rank = 0 then ⟨0, 0⟩
  else
    ((List.range 17).findSome? fun k => neighbour? rank (units rank) unitsPerOne (k + 1)).getD
      (exactDecimal rank)

end Binary64

end SearchShell
