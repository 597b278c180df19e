import SearchShell.Json.Basic
import SearchShell.Number.FloatText
import SearchShell.Text.Quoted

/-!
# Writing JSON values

One printer with a style: on one line without spaces, spread over lines with an
indentation of two, or the way values are shown inside messages.

Not every value can be written.  A writer calls itself for each collection inside
another, and calls nest only so deep; and an integer may have no more digits than
one that is read.
-/

set_option autoImplicit false

namespace SearchShell

inductive WritingFault where
  /-- There is no room for one more call in what is going on. -/
  | tooDeep (activity : Text)
  | tooLong
deriving DecidableEq

def WritingFault.message : WritingFault → Text
  | tooDeep activity => text "maximum recursion depth exceeded while " ++ activity
  | tooLong =>
      text "Exceeds the limit (" ++ Text.ofNat digitLimit ++
        text " digits) for integer string conversion; use sys.set_int_max_str_digits() to " ++
        text "increase the limit"

namespace Json

def unitEscape (n : Nat) : Text := text "\\u" ++ Text.hexDigits 4 n

/-- The escape of a code point by number, as two units above U+FFFF. -/
def numberEscape (c : CodePoint) : Text :=
  if c.val < 0x10000 then unitEscape c.val
  else
    unitEscape (0xD800 + (c.val - 0x10000) / 0x400) ++
      unitEscape (0xDC00 + (c.val - 0x10000) % 0x400)

/-- One code point inside a string.  Quotes, backslashes and control characters
are escaped always, everything outside printable ASCII only on demand. -/
def stringPoint (asciiOnly : Bool) (c : CodePoint) : Text :=
  if c = CodePoint.ofChar '"' then text "\\\""
  else if c = CodePoint.ofChar '\\' then text "\\\\"
  else if c.val = 0x0A then text "\\n"
  else if c.val = 0x0D then text "\\r"
  else if c.val = 0x09 then text "\\t"
  else if c.val = 0x08 then text "\\b"
  else if c.val = 0x0C then text "\\f"
  else if c.val < 0x20 || asciiOnly && 0x7E < c.val then numberEscape c
  else [c]

def stringText (asciiOnly : Bool) (s : Text) : Text :=
  text "\"" ++ s.flatMap (stringPoint asciiOnly) ++ text "\""

structure Style where
  nullWord : Text := text "null"
  trueWord : Text := text "true"
  falseWord : Text := text "false"
  floats : FloatStyle := FloatStyle.json
  string : Text → Text := stringText false
  nameMark : Text := text ":"
  itemMark : Text := text ","
  /-- The spaces that a level of nesting adds before each item, which then has a
  line of its own; without it there are no lines. -/
  indentation : Option Nat := none
  /-- How many calls a value takes that is no collection, and how many a double takes. -/
  plainRoom : Nat := 0
  floatRoom : Nat := 0
  /-- What is going on when calls nest too deep. -/
  activity : Text := text "encoding a JSON object"

namespace Style

/-- No spaces, and only control characters are escaped. -/
def compact : Style := {}

/-- No spaces, and only printable ASCII is left as it is. -/
def ascii : Style := { string := stringText true }

/-- An item a line, two more spaces for each level. -/
def indented : Style where
  nameMark := text ": "
  indentation := some 2
  plainRoom := 1
  floatRoom := 2
  activity := text "calling a Python object"

def shown : Style where
  nullWord := text "None"
  trueWord := text "True"
  falseWord := text "False"
  floats := FloatStyle.plain
  string := Text.quoted
  nameMark := text ": "
  itemMark := text ", "

def lineStart (style : Style) (level : Nat) : Text :=
  match style.indentation with
  | none => []
  | some width => '\n' :: List.replicate (width * level) ' '

/-- Items between brackets, the brackets at the given level. -/
def enclosed (style : Style) (level : Nat) (opening closing : CodePoint) (items : List Text) :
    Text :=
  if items.isEmpty then [opening, closing]
  else
    opening :: style.lineStart (level + 1) ++
      Text.joined (style.itemMark ++ style.lineStart (level + 1)) items ++
      style.lineStart level ++ [closing]

/-- The obstacle that a value meets for which the room is too small. -/
def shortage? (style : Style) (needed room : Nat) : Option WritingFault :=
  if room < needed then some (.tooDeep style.activity) else none

end Style

mutual

def write (style : Style) (level : Nat) : Json → Text
  | null => style.nullWord
  | bool b => if b then style.trueWord else style.falseWord
  | integer n => Text.ofInt n
  | float x => Text.ofBinary64 style.floats x
  | string s => style.string s
  | array items => style.enclosed level '[' ']' (writeItems style (level + 1) items)
  | object members => style.enclosed level '{' '}' (writeMembers style (level + 1) members)

def writeItems (style : Style) (level : Nat) : List Json → List Text
  | [] => []
  | item :: rest => write style level item :: writeItems style level rest

def writeMembers (style : Style) (level : Nat) : List (Text × Json) → List Text
  | [] => []
  | (name, value) :: rest =>
      (style.string name ++ style.nameMark ++ write style level value) ::
        writeMembers style level rest

end

mutual

/-- The first obstacle to writing a value with room for some calls inside one another. -/
def obstacle? (style : Style) : Nat → Json → Option WritingFault
  | room, integer n =>
      (style.shortage? style.plainRoom room).or
        (if Nat.pow 10 digitLimit ≤ n.natAbs then some .tooLong else none)
  | room, float _ => style.shortage? style.floatRoom room
  | 0, array _ | 0, object _ => some (.tooDeep style.activity)
  | room + 1, array items => itemsObstacle? style room items
  | room + 1, object members => membersObstacle? style room members
  | room, null | room, bool _ | room, string _ => style.shortage? style.plainRoom room

def itemsObstacle? (style : Style) (room : Nat) : List Json → Option WritingFault
  | [] => none
  | item :: rest => (obstacle? style room item).or (itemsObstacle? style room rest)

def membersObstacle? (style : Style) (room : Nat) : List (Text × Json) → Option WritingFault
  | [] => none
  | (_, value) :: rest => (obstacle? style room value).or (membersObstacle? style room rest)

end

/-- The text of a value, with room for some calls inside one another. -/
def render (style : Style) (room : Nat) (value : Json) : Except WritingFault Text :=
  match obstacle? style room value with
  | some fault => .error fault
  | none => .ok (write style 0 value)

def compact (value : Json) : Text := write .compact 0 value

def ascii (value : Json) : Text := write .ascii 0 value

def indented (value : Json) : Text := write .indented 0 value

/-- As an element of a message: strings are quoted. -/
def shownInside (value : Json) : Text := write .shown 0 value

/-- As a part of a message: a string stands for itself. -/
def shown : Json → Text
  | string s => s
  | value => shownInside value

mutual

def isFinite : Json → Bool
  | float x => x.isFinite
  | array items => itemsFinite items
  | object members => membersFinite members
  | _ => true

def itemsFinite : List Json → Bool
  | [] => true
  | item :: rest => item.isFinite && itemsFinite rest

def membersFinite : List (Text × Json) → Bool
  | [] => true
  | (_, value) :: rest => value.isFinite && membersFinite rest

end

end Json

end SearchShell
