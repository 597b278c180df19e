import SearchShell.Domain.Label
import SearchShell.Http.Message
import SearchShell.Http.UrlFault
import SearchShell.Invalid
import SearchShell.Json.Printer
import SearchShell.Refusal

/-!
# Faults

Everything that can keep a command from being answered: refusals of the command
itself, rejected responses, failures of the transport, and answers of the engine
that do not have the expected shape.
-/

set_option autoImplicit false

namespace SearchShell

/-- An answer does not have the shape that a look into it needs.  Kinds of value
are given by their names. -/
inductive ShapeFault where
  | noMethod (kindName method : Text)
  | notIterable (kindName : Text)
  | notContainer (kindName : Text)
  | notSubscriptable (kindName : Text)
  | arrayByName
  | stringByName
  | missingName (name : Text)
  | notNumber (kindName : Text)
  | nanToInteger
  | infinityToInteger
  /-- A number of items is no integer. -/
  | sliceBound
deriving DecidableEq

namespace ShapeFault

def message : ShapeFault → Text
  | noMethod kindName method =>
      text "'" ++ kindName ++ text "' object has no attribute '" ++ method ++ text "'"
  | notIterable kindName => text "'" ++ kindName ++ text "' object is not iterable"
  | notContainer kindName =>
      text "argument of type '" ++ kindName ++ text "' is not iterable"
  | notSubscriptable kindName => text "'" ++ kindName ++ text "' object is not subscriptable"
  | arrayByName => text "list indices must be integers or slices, not str"
  | stringByName => text "string indices must be integers, not 'str'"
  | missingName name => name.quoted
  | notNumber kindName =>
      text "int() argument must be a string, a bytes-like object or a real number, not '" ++
        kindName ++ text "'"
  | nanToInteger => text "cannot convert float NaN to integer"
  | infinityToInteger => text "cannot convert float infinity to integer"
  | sliceBound =>
      text "slice indices must be integers or None or have an __index__ method"

end ShapeFault

inductive Fault where
  | refused (refusal : Refusal)
  | rejected (received : Http.Received)
  | transport (failure : Http.TransportFailure)
  | json (fault : JsonFault)
  | undecodable (fault : Undecodable)
  | unencodable (fault : Unencodable)
  | notFinite
  | unwritable (fault : WritingFault)
  | shape (fault : ShapeFault)
  | integer (fault : IntegerFault)
  | url (fault : UrlFault)
  | redirect (fault : UrlFault)
  | label (fault : LabelFault)
  | coding (fault : DeflateFault)
  | charset (fault : CharsetFault)
  | invalid (report : Invalid)
deriving DecidableEq

namespace Fault

def message : Fault → Text
  | refused refusal => refusal.message
  | rejected received => received.message
  | transport failure => failure.message
  | json fault => fault.message
  | undecodable fault => fault.message
  | unencodable fault => fault.message
  | notFinite => text "Out of range float values are not JSON compliant"
  | unwritable fault => fault.message
  | shape fault => fault.message
  | integer fault => fault.message
  | url fault => fault.message
  | redirect fault => text "Invalid URL in location header: " ++ fault.message ++ text "."
  | label fault => fault.message
  | coding fault => fault.message
  | charset fault => fault.message
  | invalid report => report.message

/-- The fault lies in the exchange with the server: it could not be completed, or
the server rejected the request. -/
def isExchange : Fault → Bool
  | rejected _ => true
  | transport failure => failure.family = .exchange
  | redirect _ | coding _ => true
  | _ => false

def isValue : Fault → Bool
  | transport failure => failure.family = .value
  | json (.malformed _ _) | json (.tooLong _) => true
  | undecodable _ | unencodable _ | notFinite | integer _ | invalid _ => true
  | unwritable .tooLong => true
  | url (.unencodable _) | label _ => true
  | shape .nanToInteger => true
  | _ => false

end Fault

inductive Abort where
  | fault (fault : Fault)
  | interruption (interruption : Interruption)
deriving DecidableEq

/-- Only the command that is being run is given up. -/
def Abort.isLocal : Abort → Bool
  | .interruption ⟨.keyboard, _⟩ => true
  | _ => false

end SearchShell
