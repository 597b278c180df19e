import SearchShell.Text.Utf8

/-!
# Paths

A path is written from segments, each escaped octet by octet; a comma and an asterisk stay,
because they separate and match names.  In an address with a server, dot segments are
resolved.
-/

set_option autoImplicit false

namespace SearchShell

namespace Path

def isPlain (octet : UInt8) : Bool :=
  let n := octet.toNat
  (0x30 ≤ n && n ≤ 0x39) || (0x41 ≤ n && n ≤ 0x5A) || (0x61 ≤ n && n ≤ 0x7A) ||
    n = 0x5F || n = 0x2E || n = 0x2D || n = 0x7E || n = 0x2C || n = 0x2A

def percent (octet : UInt8) : Text :=
  [CodePoint.ofChar '%', CodePoint.ofUpperHexValue (octet.toNat / 16),
    CodePoint.ofUpperHexValue (octet.toNat % 16)]

def escapeOctet (octet : UInt8) : Text :=
  if isPlain octet then [CodePoint.ofChar (Char.ofNat octet.toNat)] else percent octet

def escape (segment : Text) : Except Unencodable Text :=
  (Utf8.encode segment).map fun octets => octets.flatMap escapeOctet

def unescapeOctets? : Text → Option Octets
  | [] => some []
  | c :: rest =>
      if c = CodePoint.ofChar '%' then match rest with
        | high :: low :: rest => do
            let n ← Text.hexNumber? [high, low]
            (unescapeOctets? rest).map (UInt8.ofNat n :: ·)
        | _ => none
      else if c.val < 0x80 then (unescapeOctets? rest).map (UInt8.ofNat c.val :: ·)
      else none

def unescape? (escaped : Text) : Option Text := (unescapeOctets? escaped).bind Utf8.decode?

def ofSegments (segments : List Text) : Except Unencodable Text :=
  (segments.mapM escape).map fun escaped => '/' :: Text.joined (text "/") escaped

/-- Where a dot segment leads: one dot stays, two go up, but not above the root. -/
def resolveStep (kept : List Text) (part : Text) : List Text :=
  if part = text "." then kept
  else if part = text ".." then if kept = [] || kept = [[]] then kept else kept.dropLast
  else kept ++ [part]

def resolveDots (path : Text) : Text :=
  Text.joined (text "/") ((path.splitOn (CodePoint.ofChar '/')).foldl resolveStep [])

def withoutRoot (path : Text) : Text := path.dropWhile fun c => c = CodePoint.ofChar '/'

end Path

end SearchShell
