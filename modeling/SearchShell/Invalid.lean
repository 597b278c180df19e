import SearchShell.Number.Integer

/-!
# Invalid values

Values that come from outside are checked against the type of their place.  What
does not fit is reported together, place by place.
-/

set_option autoImplicit false

namespace SearchShell

inductive ValueDefect where
  | greaterThan (bound : Int)
  | greaterThanEqual (bound : Int)
  | lessThan (bound : Int)
  | integerText
  | integerSize
  | integerFraction
  | integerType
  | floatText
  | floatType
  | textType
  /-- A text that should spell a number holds half of a surrogate pair. -/
  | textUnicode
  | objectType
  | notFinite
deriving DecidableEq

namespace ValueDefect

def code : ValueDefect → Text
  | greaterThan _ => text "greater_than"
  | greaterThanEqual _ => text "greater_than_equal"
  | lessThan _ => text "less_than"
  | integerText => text "int_parsing"
  | integerSize => text "int_parsing_size"
  | integerFraction => text "int_from_float"
  | integerType => text "int_type"
  | floatText => text "float_parsing"
  | floatType => text "float_type"
  | textType => text "string_type"
  | textUnicode => text "string_unicode"
  | objectType => text "dict_type"
  | notFinite => text "finite_number"

def sentence : ValueDefect → Text
  | greaterThan bound => text "Input should be greater than " ++ Text.ofInt bound
  | greaterThanEqual bound => text "Input should be greater than or equal to " ++ Text.ofInt bound
  | lessThan bound => text "Input should be less than " ++ Text.ofInt bound
  | integerText =>
      text "Input should be a valid integer, unable to parse string as an integer"
  | integerSize =>
      text "Unable to parse input string as an integer, exceeded maximum size"
  | integerFraction =>
      text "Input should be a valid integer, got a number with a fractional part"
  | integerType => text "Input should be a valid integer"
  | floatText => text "Input should be a valid number, unable to parse string as a number"
  | floatType => text "Input should be a valid number"
  | textType => text "Input should be a valid string"
  | textUnicode =>
      text "Input should be a valid string, unable to parse raw data as a unicode string"
  | objectType => text "Input should be a valid dictionary"
  | notFinite => text "Input should be a finite number"

end ValueDefect

structure Invalid where
  record : Text
  /-- The place of each defect, its parts separated by dots. -/
  defects : List (Text × ValueDefect)
deriving DecidableEq

namespace Invalid

def message (invalid : Invalid) : Text :=
  let count := invalid.defects.length
  Text.ofNat count ++ text " validation error" ++ (if count = 1 then [] else text "s") ++
    text " for " ++ invalid.record ++
    invalid.defects.flatMap fun (place, defect) =>
      text "\n" ++ place ++ text "\n  " ++ defect.sentence ++ text " [type=" ++ defect.code ++
        text "]"

end Invalid

end SearchShell
