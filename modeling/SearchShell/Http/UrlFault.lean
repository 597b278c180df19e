import SearchShell.Text.Utf8

/-!
# Faults of addresses

Why a text is no address.
-/

set_option autoImplicit false

namespace SearchShell

inductive UrlPart where
  | scheme
  | authority
  | path
  | query
  | fragment
deriving DecidableEq

namespace UrlPart

def name : UrlPart → Text
  | scheme => text "scheme"
  | authority => text "authority"
  | path => text "path"
  | query => text "query"
  | fragment => text "fragment"

end UrlPart

inductive UrlFault where
  | tooLong
  | partTooLong (part : UrlPart)
  | unprintable (c : CodePoint) (place : Nat)
  | port (raw : Text)
  | shortAddress (raw : Text)
  | longAddress (raw : Text)
  | domainName (raw : Text)
  /-- After a server stands a path that does not begin at the root. -/
  | rootless
  /-- A path without a server begins with two slashes. -/
  | doubleSlash
  | colon
  | unencodable (fault : Unencodable)
deriving DecidableEq

namespace UrlFault

def message : UrlFault → Text
  | tooLong => text "URL too long"
  | partTooLong part => text "URL component '" ++ part.name ++ text "' too long"
  | unprintable c place =>
      text "Invalid non-printable ASCII character in URL, " ++ Text.quoted [c] ++
        text " at position " ++ Text.ofNat place ++ text "."
  | port raw => text "Invalid port: " ++ raw.quoted
  | shortAddress raw => text "Invalid IPv4 address: " ++ raw.quoted
  | longAddress raw => text "Invalid IPv6 address: " ++ raw.quoted
  | domainName raw => text "Invalid IDNA hostname: " ++ raw.quoted
  | rootless => text "For absolute URLs, path must be empty or begin with '/'"
  | doubleSlash => text "Relative URLs cannot have a path starting with '//'"
  | colon => text "Relative URLs cannot have a path starting with ':'"
  | unencodable fault => fault.message

end UrlFault

end SearchShell
