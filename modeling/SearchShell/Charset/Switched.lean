import SearchShell.Charset.Japanese
import SearchShell.Charset.Plane.Ksx1001

/-!
# Charsets with escape sequences

All octets are those of ASCII.  An escape sequence calls up a set of characters, and the octets
that follow stand for its characters, alone or in pairs.  Two sets can stand ready to be shifted
between, and a third to take a single character from.
-/

set_option autoImplicit false

namespace SearchShell

inductive CharacterSet where
  | ascii
  | roman
  | kana
  | jis0208
  | jis0212
  | jis0213First (repertoire : JapaneseRepertoire)
  | jis0213Second
  | gb2312
  | ksx1001
  | latin
  | greek
deriving DecidableEq

namespace CharacterSet

def pairText? (set : CharacterSet) (row cell : Nat) : Option Text :=
  match set with
  | jis0208 => Plane.jis0208.text? row cell
  | jis0212 => Plane.jis0212.text? row cell
  | jis0213First repertoire => Japanese.firstPlaneText? repertoire row cell
  | jis0213Second => Plane.jis0213Second.text? row cell
  | gb2312 => Plane.gb2312.text? row cell
  | ksx1001 => Plane.ksx1001.text? row cell
  | _ => none

def read {σ : Type} (set : CharacterSet) (state : σ) (first : UInt8) : Octets → Reading σ
  | rest => match set with
    | ascii => .one (Charset.samePoint first) state
    | roman => .one (Japanese.roman first) state
    | kana => .ofText? 1 1 state (Japanese.kana? (first.toNat + 0x80))
    | latin | greek => .broken 1
    | _ => match rest with
      | [] => .unfinished
      | second :: _ =>
          .ofText? 2 2 state (set.pairText? (first.toNat - 0x20) (second.toNat - 0x20))

def greekRows : List String := [
  "\xa0‘’£\ufffd\ufffd¦§¨©\ufffd«¬\xad\ufffd―",
  "°±²³΄΅Ά·ΈΉΊ»Ό½ΎΏ",
  "ΐΑΒΓΔΕΖΗΘΙΚΛΜΝΞΟ",
  "ΠΡ\ufffdΣΤΥΦΧΨΩΪΫάέήί",
  "ΰαβγδεζηθικλμνξο",
  "πρςστυφχψωϊϋόύώ"]

/-- The text for an octet of the upper half of a set, given without its highest bit. -/
def highText? (set : CharacterSet) (octet : UInt8) : Option Text :=
  let n := octet.toNat + 0x80
  match set with
  | latin => if octet < 0x80 then (CodePoint.ofNat? n).map List.singleton else none
  | greek =>
      if 0x80 ≤ octet then some [Charset.samePoint (octet - 0x80)]
      else if n < 0xA0 then (CodePoint.ofNat? n).map List.singleton
      else (((greekRows.flatMap text)[n - 0xA0]?).filter fun c =>
        c ≠ CodePoint.replacement).map List.singleton
  | _ => none

end CharacterSet

namespace SwitchedCharset

/-- The sets that can be called up.  Each is named by the last octet of an escape sequence, and
by whether it takes octets in pairs. -/
def sets : SwitchedCharset → List (Bool × Char × CharacterSet)
  | japanese => [(true, 'B', .jis0208), (false, 'J', .roman), (true, '@', .jis0208)]
  | japanese1 => [(true, 'B', .jis0208), (true, 'D', .jis0212), (false, 'J', .roman),
      (true, '@', .jis0208)]
  | japanese2 => [(true, 'B', .jis0208), (true, 'D', .jis0212), (true, 'C', .ksx1001),
      (true, 'A', .gb2312), (false, 'J', .roman), (true, '@', .jis0208), (false, 'A', .latin),
      (false, 'F', .greek)]
  | japaneseExtended => [(true, 'B', .jis0208), (true, 'D', .jis0212), (false, 'J', .roman),
      (false, 'I', .kana), (true, '@', .jis0208)]
  | japanese3 => [(true, 'B', .jis0208), (true, 'O', .jis0213First .jis2000),
      (true, 'P', .jis0213Second)]
  | japanese2004 => [(true, 'B', .jis0208), (true, 'Q', .jis0213First .jis2004),
      (true, 'P', .jis0213Second)]
  | korean => [(true, 'C', .ksx1001)]

/-- ASCII can always be called up. -/
def set? (form : SwitchedCharset) (pairs : Bool) (last : UInt8) : Option CharacterSet :=
  ((false, 'B', CharacterSet.ascii) :: form.sets).findSome? fun (inPairs, letter, set) =>
    if inPairs = pairs && letter.toNat = last.toNat then some set else none

/-- Octets shift between two sets.  Otherwise escape sequences may have a prefix. -/
def shifts (form : SwitchedCharset) : Bool := form = .korean

def hasThird (form : SwitchedCharset) : Bool := form = .japanese2

end SwitchedCharset

namespace Switched

structure State where
  first : CharacterSet := .ascii
  second : CharacterSet := .ascii
  third : CharacterSet := .ascii
  shifted : Bool := false
  /-- In an escape sequence of another kind, whose octets stand for themselves. -/
  foreign : Bool := false

inductive Position where
  | first
  | second
  | third

namespace State

def place (state : State) (set : CharacterSet) : Position → State
  | .first => { state with first := set }
  | .second => { state with second := set }
  | .third => { state with third := set }

def current (state : State) : CharacterSet :=
  if state.shifted then state.second else state.first

end State

/-! ## Escape sequences -/

def escape : UInt8 := 0x1B

def isLast (octet : UInt8) : Bool := 0x40 ≤ octet && octet ≤ 0x5A

def introducers : Octets := [0x28, 0x29, 0x24, 0x2E, 0x26]

def lengthLimit : Nat := 17

/-- The prefix that tells a later edition of a set. -/
def isPrefixAt (octets : Octets) (place : Nat) : Bool :=
  octets[place]? = some 0x26 && octets[place + 1]? = some 0x40

inductive Length where
  | known (length : Nat)
  | unfinished
  | tooLong

def lengthFrom (prefixes : Bool) (octets : Octets) : (fuel : Nat) → (place : Nat) → Length
  | 0, _ => .tooLong
  | fuel + 1, place =>
      if lengthLimit ≤ place + 1 then .tooLong
      else match octets[place]? with
        | none => .unfinished
        | some octet =>
            if isLast octet then .known (place + 1)
            else if prefixes && isPrefixAt octets place then
              lengthFrom prefixes octets fuel (place + 3)
            else lengthFrom prefixes octets fuel (place + 1)

/-- What a whole escape sequence calls up: where it is to stand, whether it takes octets in
pairs, and its last octet. -/
def called? (form : SwitchedCharset) : Octets → Option (Position × Bool × UInt8)
  | [_, 0x24, last] => some (.first, true, last)
  | [_, 0x28, last] => some (.first, false, last)
  | [_, 0x29, last] => some (.second, false, last)
  | [_, 0x2E, last] => if form.hasThird then some (.third, false, last) else none
  | [_, 0x24, 0x28, last] => some (.first, true, last)
  | [_, 0x24, 0x29, last] => some (.second, true, last)
  | [_, _, _, 0x1B, 0x24, 0x42] => if form.shifts then none else some (.first, true, 0x42)
  | _ => none

def callUp (form : SwitchedCharset) (state : State) (octets : Octets) : Reading State :=
  match lengthFrom (!form.shifts) octets lengthLimit 1 with
  | .unfinished => .unfinished
  | .tooLong => .broken 1
  | .known length =>
      match called? form (octets.take length) with
      | none => .broken length
      | some (position, pairs, last) => match form.set? pairs last with
        | some set => .points [] length (state.place set position)
        | none => .broken length

def readThird (state : State) : Octets → Reading State
  | _ :: _ :: octet :: _ => match state.third with
    | .ascii => .ofText? 3 3 state (if octet < 0x80 then some [Charset.samePoint octet] else none)
    | .latin | .greek => .ofText? 3 3 state (state.third.highText? octet)
    | _ => .stuck
  | _ => .unfinished

def readEscape (form : SwitchedCharset) (state : State) (octets : Octets) : Reading State :=
  match octets[1]? with
  | none => .unfinished
  | some next =>
      if introducers.contains next then callUp form state octets
      else if form.hasThird && next = 0x4E then readThird state octets
      else .one (Charset.samePoint escape) { state with foreign := true }

def read (form : SwitchedCharset) (state : State) : Octets → Reading State
  | [] => .unfinished
  | octet :: rest =>
      let self := Charset.samePoint octet
      if state.foreign then .one self { state with foreign := !isLast octet }
      else if octet = escape then readEscape form state (octet :: rest)
      else if octet = 0x0F && form.shifts then .points [] 1 { state with shifted := false }
      else if octet = 0x0E && form.shifts then .points [] 1 { state with shifted := true }
      else if octet = 0x0A then .one self { state with shifted := false }
      else if octet < 0x20 then .one self state
      else if 0x80 ≤ octet then .broken 1
      else state.current.read state octet rest

end Switched

end SearchShell
