import SearchShell.Domain.Context
import SearchShell.Domain.Direction
import SearchShell.Domain.Permitted
import SearchShell.Number.Integer
import SearchShell.Text.Punycode
import SearchShell.Text.Quoted

/-!
# Labels of domain names

A label is one part of a domain name.  Labels outside ASCII are sent in Punycode, with a
mark before it; only labels that follow the rules are accepted.
-/

set_option autoImplicit false

namespace SearchShell

/-! ## Faults of labels

Why a text is no label of a domain name. -/

/-- Places are counted from one. -/
inductive LabelFault where
  | empty
  | tooLong
  | notComposed
  /-- Two hyphens stand where the mark of Punycode has its own. -/
  | innerHyphens
  | outerHyphen
  | combining
  | joiner (c : CodePoint) (place : Nat) (label : Text)
  | misplaced (c : CodePoint) (place : Nat) (label : Text)
  | forbidden (c : CodePoint) (place : Nat) (label : Text)
  | direction (fault : DirectionFault) (label : Text)
  | noCode
  | endingHyphen
  | notPunycode
  | noName
  | nameTooLong
deriving DecidableEq

def CodePoint.number (c : CodePoint) : Text :=
  text "U+" ++ Text.upperHexDigits (max 4 (Nat.toDigits 16 c.val).length) c.val

namespace DirectionFault

def message (label : Text) : DirectionFault → Text
  | start =>
      text "First codepoint in label " ++ label.quoted ++ text " must be directionality L, R or AL"
  | inRightToLeft place =>
      text "Invalid direction for codepoint at position " ++ Text.ofNat place ++
        text " in a right-to-left label"
  | inLeftToRight place =>
      text "Invalid direction for codepoint at position " ++ Text.ofNat place ++
        text " in a left-to-right label"
  | mixedNumbers => text "Can not mix numeral types in a right-to-left label"
  | ending => text "Label ends with illegal codepoint directionality"

end DirectionFault

namespace LabelFault

def message : LabelFault → Text
  | empty => text "Empty Label"
  | tooLong => text "Label too long"
  | notComposed => text "Label must be in Normalization Form C"
  | innerHyphens => text "Label has disallowed hyphens in 3rd and 4th position"
  | outerHyphen => text "Label must not start or end with a hyphen"
  | combining => text "Label begins with an illegal combining character"
  | joiner c place label =>
      text "Unknown codepoint adjacent to joiner " ++ c.number ++ text " at position " ++
        Text.ofNat place ++ text " in " ++ label.quoted
  | misplaced c place label =>
      text "Codepoint " ++ c.number ++ text " not allowed at position " ++ Text.ofNat place ++
        text " in " ++ label.quoted
  | forbidden c place label =>
      text "Codepoint " ++ c.number ++ text " at position " ++ Text.ofNat place ++ text " of " ++
        label.quoted ++ text " not allowed"
  | direction fault label => fault.message label
  | noCode => text "Malformed A-label, no Punycode eligible content found"
  | endingHyphen => text "A-label must not end with a hyphen"
  | notPunycode => text "Invalid A-label"
  | noName => text "Empty domain"
  | nameTooLong => text "Domain too long"

end LabelFault

/-! ## Reading -/

namespace CodePoint

def combiningRuns : List (Nat × Nat) := [
  (0x300, 0x33F), (0x342, 0x342), (0x346, 0x34E), (0x350, 0x36F), (0x483, 0x487), (0x591, 0x5BD),
  (0x5BF, 0x5BF), (0x5C1, 0x5C2), (0x5C4, 0x5C5), (0x5C7, 0x5C7), (0x610, 0x61A), (0x64B, 0x65F),
  (0x670, 0x670), (0x6D6, 0x6DC), (0x6DF, 0x6E4), (0x6E7, 0x6E8), (0x6EA, 0x6ED), (0x711, 0x711),
  (0x730, 0x74A), (0x7A6, 0x7B0), (0x7EB, 0x7F3), (0x7FD, 0x7FD), (0x816, 0x819), (0x81B, 0x823),
  (0x825, 0x827), (0x829, 0x82D), (0x859, 0x85B), (0x898, 0x89F), (0x8CA, 0x8E1), (0x8E3, 0x903),
  (0x93A, 0x93C), (0x93E, 0x94F), (0x951, 0x957), (0x962, 0x963), (0x981, 0x983), (0x9BC, 0x9BC),
  (0x9BE, 0x9C4), (0x9C7, 0x9C8), (0x9CB, 0x9CD), (0x9D7, 0x9D7), (0x9E2, 0x9E3), (0x9FE, 0x9FE),
  (0xA01, 0xA03), (0xA3C, 0xA3C), (0xA3E, 0xA42), (0xA47, 0xA48), (0xA4B, 0xA4D), (0xA51, 0xA51),
  (0xA70, 0xA71), (0xA75, 0xA75), (0xA81, 0xA83), (0xABC, 0xABC), (0xABE, 0xAC5), (0xAC7, 0xAC9),
  (0xACB, 0xACD), (0xAE2, 0xAE3), (0xAFA, 0xAFF), (0xB01, 0xB03), (0xB3C, 0xB3C), (0xB3E, 0xB44),
  (0xB47, 0xB48), (0xB4B, 0xB4D), (0xB55, 0xB57), (0xB62, 0xB63), (0xB82, 0xB82), (0xBBE, 0xBC2),
  (0xBC6, 0xBC8), (0xBCA, 0xBCD), (0xBD7, 0xBD7), (0xC00, 0xC04), (0xC3C, 0xC3C), (0xC3E, 0xC44),
  (0xC46, 0xC48), (0xC4A, 0xC4D), (0xC55, 0xC56), (0xC62, 0xC63), (0xC81, 0xC83), (0xCBC, 0xCBC),
  (0xCBE, 0xCC4), (0xCC6, 0xCC8), (0xCCA, 0xCCD), (0xCD5, 0xCD6), (0xCE2, 0xCE3), (0xD00, 0xD03),
  (0xD3B, 0xD3C), (0xD3E, 0xD44), (0xD46, 0xD48), (0xD4A, 0xD4D), (0xD57, 0xD57), (0xD62, 0xD63),
  (0xD81, 0xD83), (0xDCA, 0xDCA), (0xDCF, 0xDD4), (0xDD6, 0xDD6), (0xDD8, 0xDDF), (0xDF2, 0xDF3),
  (0xE31, 0xE31), (0xE34, 0xE3A), (0xE47, 0xE4E), (0xEB1, 0xEB1), (0xEB4, 0xEBC), (0xEC8, 0xECD),
  (0xF18, 0xF19), (0xF35, 0xF35), (0xF37, 0xF37), (0xF39, 0xF39), (0xF3E, 0xF3F), (0xF71, 0xF72),
  (0xF74, 0xF74), (0xF7A, 0xF80), (0xF82, 0xF84), (0xF86, 0xF87), (0xF8D, 0xF92), (0xF94, 0xF97),
  (0xF99, 0xF9C), (0xF9E, 0xFA1), (0xFA3, 0xFA6), (0xFA8, 0xFAB), (0xFAD, 0xFB8), (0xFBA, 0xFBC),
  (0xFC6, 0xFC6), (0x102B, 0x103E), (0x1056, 0x1059), (0x105E, 0x1060), (0x1062, 0x1064),
  (0x1067, 0x106D), (0x1071, 0x1074), (0x1082, 0x108D), (0x108F, 0x108F), (0x109A, 0x109D),
  (0x135D, 0x135F), (0x1712, 0x1715), (0x1732, 0x1734), (0x1752, 0x1753), (0x1772, 0x1773),
  (0x17B6, 0x17D3), (0x17DD, 0x17DD), (0x1885, 0x1886), (0x18A9, 0x18A9), (0x1920, 0x192B),
  (0x1930, 0x193B), (0x1A17, 0x1A1B), (0x1A55, 0x1A5E), (0x1A60, 0x1A7C), (0x1A7F, 0x1A7F),
  (0x1AB0, 0x1ABD), (0x1ABF, 0x1ACE), (0x1B00, 0x1B04), (0x1B34, 0x1B44), (0x1B6B, 0x1B73),
  (0x1B80, 0x1B82), (0x1BA1, 0x1BAD), (0x1BE6, 0x1BF3), (0x1C24, 0x1C37), (0x1CD0, 0x1CD2),
  (0x1CD4, 0x1CE8), (0x1CED, 0x1CED), (0x1CF4, 0x1CF4), (0x1CF7, 0x1CF9), (0x1DC0, 0x1DFF),
  (0x2CEF, 0x2CF1), (0x2D7F, 0x2D7F), (0x2DE0, 0x2DFF), (0x302A, 0x302D), (0x3099, 0x309A),
  (0xA66F, 0xA66F), (0xA674, 0xA67D), (0xA69E, 0xA69F), (0xA6F0, 0xA6F1), (0xA802, 0xA802),
  (0xA806, 0xA806), (0xA80B, 0xA80B), (0xA823, 0xA827), (0xA82C, 0xA82C), (0xA880, 0xA881),
  (0xA8B4, 0xA8C5), (0xA8E0, 0xA8F1), (0xA8FF, 0xA8FF), (0xA926, 0xA92D), (0xA947, 0xA953),
  (0xA980, 0xA983), (0xA9B3, 0xA9C0), (0xA9E5, 0xA9E5), (0xAA29, 0xAA36), (0xAA43, 0xAA43),
  (0xAA4C, 0xAA4D), (0xAA7B, 0xAA7D), (0xAAB0, 0xAAB0), (0xAAB2, 0xAAB4), (0xAAB7, 0xAAB8),
  (0xAABE, 0xAABF), (0xAAC1, 0xAAC1), (0xAAEB, 0xAAEF), (0xAAF5, 0xAAF6), (0xABE3, 0xABEA),
  (0xABEC, 0xABED), (0xFB1E, 0xFB1E), (0xFE20, 0xFE2F), (0x101FD, 0x101FD), (0x102E0, 0x102E0),
  (0x10376, 0x1037A), (0x10A01, 0x10A03), (0x10A05, 0x10A06), (0x10A0C, 0x10A0F),
  (0x10A38, 0x10A3A), (0x10A3F, 0x10A3F), (0x10AE5, 0x10AE6), (0x10D24, 0x10D27),
  (0x10EAB, 0x10EAC), (0x10F46, 0x10F50), (0x10F82, 0x10F85), (0x11000, 0x11002),
  (0x11038, 0x11046), (0x11070, 0x11070), (0x11073, 0x11074), (0x1107F, 0x11082),
  (0x110B0, 0x110BA), (0x110C2, 0x110C2), (0x11100, 0x11102), (0x11127, 0x11134),
  (0x11145, 0x11146), (0x11173, 0x11173), (0x11180, 0x11182), (0x111B3, 0x111C0),
  (0x111C9, 0x111CC), (0x111CE, 0x111CF), (0x1122C, 0x11237), (0x1123E, 0x1123E),
  (0x112DF, 0x112EA), (0x11300, 0x11303), (0x1133B, 0x1133C), (0x1133E, 0x11344),
  (0x11347, 0x11348), (0x1134B, 0x1134D), (0x11357, 0x11357), (0x11362, 0x11363),
  (0x11366, 0x1136C), (0x11370, 0x11374), (0x11435, 0x11446), (0x1145E, 0x1145E),
  (0x114B0, 0x114C3), (0x115AF, 0x115B5), (0x115B8, 0x115C0), (0x115DC, 0x115DD),
  (0x11630, 0x11640), (0x116AB, 0x116B7), (0x1171D, 0x1172B), (0x1182C, 0x1183A),
  (0x11930, 0x11935), (0x11937, 0x11938), (0x1193B, 0x1193E), (0x11940, 0x11940),
  (0x11942, 0x11943), (0x119D1, 0x119D7), (0x119DA, 0x119E0), (0x119E4, 0x119E4),
  (0x11A01, 0x11A0A), (0x11A33, 0x11A39), (0x11A3B, 0x11A3E), (0x11A47, 0x11A47),
  (0x11A51, 0x11A5B), (0x11A8A, 0x11A99), (0x11C2F, 0x11C36), (0x11C38, 0x11C3F),
  (0x11C92, 0x11CA7), (0x11CA9, 0x11CB6), (0x11D31, 0x11D36), (0x11D3A, 0x11D3A),
  (0x11D3C, 0x11D3D), (0x11D3F, 0x11D45), (0x11D47, 0x11D47), (0x11D8A, 0x11D8E),
  (0x11D90, 0x11D91), (0x11D93, 0x11D97), (0x11EF3, 0x11EF6), (0x16AF0, 0x16AF4),
  (0x16B30, 0x16B36), (0x16F4F, 0x16F4F), (0x16F51, 0x16F87), (0x16F8F, 0x16F92),
  (0x16FE4, 0x16FE4), (0x16FF0, 0x16FF1), (0x1BC9D, 0x1BC9E), (0x1CF00, 0x1CF2D),
  (0x1CF30, 0x1CF46), (0x1DA00, 0x1DA36), (0x1DA3B, 0x1DA6C), (0x1DA75, 0x1DA75),
  (0x1DA84, 0x1DA84), (0x1DA9B, 0x1DA9F), (0x1DAA1, 0x1DAAF), (0x1E000, 0x1E006),
  (0x1E008, 0x1E018), (0x1E01B, 0x1E021), (0x1E023, 0x1E024), (0x1E026, 0x1E02A),
  (0x1E130, 0x1E136), (0x1E2AE, 0x1E2AE), (0x1E2EC, 0x1E2EF), (0x1E8D0, 0x1E8D6),
  (0x1E944, 0x1E94A)]

end CodePoint

namespace Domain

/-! ### Rules -/

def lookLimit : Nat := 254

def hyphen : CodePoint := CodePoint.ofChar '-'

/-- No label begins with a hyphen or ends in one, and no label has two where the mark of
Punycode has its hyphens. -/
def hyphenFault? (label : Text) : Option LabelFault :=
  if (label.drop 2).take 2 = text "--" then some .innerHyphens
  else if label.head? = some hyphen || label.getLast? = some hyphen then some .outerHyphen
  else none

def isJoiner (c : CodePoint) : Bool := c.val = 0x200C || c.val = 0x200D

/-- Code points other than joiners that may stand only beside some others. -/
def isContextual (c : CodePoint) : Bool :=
  [0xB7, 0x375, 0x5F3, 0x5F4, 0x30FB].contains c.val || c.isArabicIndicDigit ||
    c.isExtendedArabicIndicDigit

/-- The first code point that may not stand where it stands, after what is before it, in
reverse. -/
def placeFault? (label before : Text) : Text → Option LabelFault
  | [] => none
  | c :: rest =>
      if c.isPermitted || CodePoint.fits before c rest then placeFault? label (c :: before) rest
      else
        let place := before.length + 1
        if isJoiner c then some (.joiner c place label)
        else if isContextual c then some (.misplaced c place label)
        else some (.forbidden c place label)

def labelFault? (label : Text) : Option LabelFault :=
  if label.isEmpty then some .empty
  else if lookLimit < label.length then some .tooLong
  else if label.composed ≠ label then some .notComposed
  else (hyphenFault? label).or <|
    if label.head?.any (CodePoint.isIn CodePoint.combiningRuns) then some .combining
    else (placeFault? label [] label).or
      ((label.directionFault?).map fun fault => .direction fault label)

/-! ### Labels in ASCII -/

def punycodeMark : Text := text "xn--"

def readLabel (label : Text) : Except LabelFault Text :=
  let lower := label.toAsciiLower
  if punycodeMark.isPrefixOf lower then
    let code := lower.drop punycodeMark.length
    if code.isEmpty then .error .noCode
    else if code.getLast? = some hyphen then .error .endingHyphen
    else match Punycode.decode? code with
      | some meant => .ok meant
      | none => .error .notPunycode
  else .ok lower

def judge (label : Text) : Except LabelFault Text :=
  match labelFault? label with
  | some fault => .error fault
  | none => .ok label

def labelLimit : Nat := 63

def writeLabel (label : Text) : Except LabelFault Text := do
  let written ←
    if label.all CodePoint.isAscii then (readLabel label >>= judge).map fun _ => label
    else (judge label).map fun label => punycodeMark ++ Punycode.encode label
  if written.length ≤ labelLimit then return written else .error .tooLong

def dots : List Nat := [0x2E, 0x3002, 0xFF0E, 0xFF61]

/-- The labels of a domain name, and whether a dot follows the last. -/
def labels (name : Text) : List Text × Bool :=
  let parts := (name.map fun c =>
    if dots.contains c.val then CodePoint.ofChar '.' else c).splitOn (CodePoint.ofChar '.')
  if parts.getLast? = some [] then (parts.dropLast, true) else (parts, false)

def nameLimit : Nat := 253

def write (name : Text) : Except LabelFault Text := do
  let (labels, isDotted) := labels name
  let written ← labels.mapM writeLabel
  let joined := Text.joined (text ".") written
  if joined.isEmpty then .error .noName
  else if nameLimit < joined.length then .error .nameTooLong
  else return if isDotted then joined ++ text "." else joined

def read (name : Text) : Except LabelFault Text :=
  if nameLimit + 1 < name.length then .error .nameTooLong
  else do
    let (labels, isDotted) := labels name
    let meant ← labels.mapM fun label => readLabel label >>= judge
    let joined := Text.joined (text ".") meant
    return if isDotted then joined ++ text "." else joined

end Domain

end SearchShell
