import SearchShell.Http.Host
import SearchShell.Number.Integer

/-!
# Addresses

An address has a scheme, a server, a path, a query and a fragment, and all but the path can
be missing.  It is read into its normal form, in which it is written.
-/

set_option autoImplicit false

namespace SearchShell

/-- An address cut into its parts, of which nothing has been judged. -/
structure UrlParts where
  scheme : Text := []
  authority : Text := []
  path : Text := []
  query : Option Text := none
  fragment : Option Text := none
deriving DecidableEq

namespace UrlParts

/-- The scheme before the first colon, and what follows it.  Where no scheme is, a colon is
passed over. -/
def splitScheme (s : Text) : Text × Text :=
  let scheme := s.takeWhile fun c =>
    c.isAsciiLetter || c.isAsciiDigit || (text "+.-").contains c
  let isScheme := scheme.isEmpty || scheme.head?.any CodePoint.isAsciiLetter
  if isScheme && (s.drop scheme.length).head? = some (CodePoint.ofChar ':') then
    (scheme, s.drop (scheme.length + 1))
  else ([], s)

def splitBefore (ends : Text) (s : Text) : Text × Text :=
  (s.takeWhile fun c => !ends.contains c, s.dropWhile fun c => !ends.contains c)

def ofText (s : Text) : UrlParts :=
  let (scheme, afterScheme) := splitScheme s
  let (authority, afterAuthority) :=
    if (text "//").isPrefixOf afterScheme then splitBefore (text "/?#") (afterScheme.drop 2)
    else ([], afterScheme)
  let (path, afterPath) := splitBefore (text "?#") afterAuthority
  let (query, afterQuery) : Option Text × Text :=
    if afterPath.head? = some (CodePoint.ofChar '?') then
      let (query, rest) := splitBefore (text "#") (afterPath.drop 1)
      (some query, rest)
    else (none, afterPath)
  let fragment := if afterQuery.isEmpty then none else some (afterQuery.drop 1)
  ⟨scheme, authority, path, query, fragment⟩

def tooLong? (limit : Nat) (parts : UrlParts) : Option UrlPart :=
  let lengths : List (UrlPart × Nat) := [
    (.scheme, parts.scheme.length), (.authority, parts.authority.length),
    (.path, parts.path.length), (.query, (parts.query.getD []).length),
    (.fragment, (parts.fragment.getD []).length)]
  (lengths.find? fun part => limit < part.2).map Prod.fst

end UrlParts

structure Authority where
  userInfo : Text
  host : Text
  port : Text
deriving DecidableEq

namespace Authority

/-- Cuts before the last at sign, and before the first colon that is not in brackets. -/
def ofText (s : Text) : Authority :=
  let server := (s.reverse.takeWhile fun c => c ≠ CodePoint.ofChar '@').reverse
  let bracketed := (server.reverse.dropWhile fun c => c ≠ CodePoint.ofChar ']').reverse
  let host :=
    if Host.isBracketed bracketed then bracketed
    else server.takeWhile fun c => c ≠ CodePoint.ofChar ':'
  let rest := server.drop host.length
  { userInfo := s.take (s.length - server.length - 1)
    host := host
    port := if rest.head? = some (CodePoint.ofChar ':') then rest.drop 1 else rest }

end Authority

structure Url where
  scheme : Text
  userInfo : Text
  host : Text
  /-- The port, unless it goes without saying. -/
  port : Option Int
  path : Text
  query : Option Text
  fragment : Option Text
deriving DecidableEq

namespace Url

/-! ## Reading -/

/-- The most code points of an address and of each of its parts. -/
def lengthLimit : Nat := 65536

def usualPorts : List (Text × Int) := [
  (text "ftp", 21), (text "http", 80), (text "https", 443), (text "ws", 80), (text "wss", 443)]

def readPort (scheme raw : Text) : Except UrlFault (Option Int) :=
  if raw.isEmpty then .ok none
  else match readInteger raw with
    | .error _ => .error (.port raw)
    | .ok port => .ok (if usualPorts.lookup scheme = some port then none else some port)

/-- The ASCII code points from the space to the tilde, without some. -/
def isPlainBut (others : Text) (c : CodePoint) : Bool :=
  0x20 ≤ c.val && c.val < 0x7F && !others.contains c

def escapedInPath : Text := text " \"#<>?\x60\x7b\x7d"

def escapedInUserInfo : Text := escapedInPath ++ text "/;=@[\\]^|"

def escapedInQuery : Text := text " \"#<>"

def escapedInFragment : Text := text " \"<>\x60"

/-- A part with the octets of everything escaped that does not stand for itself. -/
def quote (escaped part : Text) : Except UrlFault Text :=
  (part.mapM fun c =>
    if isPlainBut escaped c then .ok [c]
    else ((Utf8.encode [c]).mapError UrlFault.unencodable).map fun octets =>
      octets.flatMap Path.percent).map List.flatten

def quote? (escaped : Text) : Option Text → Except UrlFault (Option Text)
  | none => .ok none
  | some part => (quote escaped part).map some

def checkPath (hasScheme hasAuthority : Bool) (path : Text) : Except UrlFault Unit :=
  let startsWith (beginning : String) : Bool := (text beginning).isPrefixOf path
  if hasAuthority then
    if path.isEmpty || startsWith "/" then .ok () else .error .rootless
  else if hasScheme then .ok ()
  else if startsWith "//" then .error .doubleSlash
  else if startsWith ":" then .error .colon
  else .ok ()

def ofParts (parts : UrlParts) (authority : Authority) : Except UrlFault Url := do
  let userInfo ← quote escapedInUserInfo authority.userInfo
  let host ← Host.normal authority.host
  let port ← readPort parts.scheme authority.port
  let hasScheme := !parts.scheme.isEmpty
  let hasAuthority := !userInfo.isEmpty || !host.isEmpty || port.isSome
  checkPath hasScheme hasAuthority parts.path
  let resolved := if hasScheme || hasAuthority then Path.resolveDots parts.path else parts.path
  let path ← quote escapedInPath resolved
  let query ← quote? escapedInQuery parts.query
  let fragment ← quote? escapedInFragment parts.fragment
  .ok ⟨parts.scheme.toAsciiLower, userInfo, host, port, path, query, fragment⟩

def unprintable? (s : Text) : Option UrlFault :=
  let before := s.takeWhile fun c => 0x20 ≤ c.val && c.val ≠ 0x7F
  (s[before.length]?).map fun c => .unprintable c before.length

def read (s : Text) : Except UrlFault Url :=
  if lengthLimit < s.length then .error .tooLong
  else match unprintable? s with
    | some fault => .error fault
    | none =>
        let parts := UrlParts.ofText s
        ofParts parts (.ofText parts.authority)

/-! ## Writing -/

def authority (url : Url) : Text :=
  (if url.userInfo.isEmpty then [] else url.userInfo ++ text "@") ++
  (if url.host.contains (CodePoint.ofChar ':') then text "[" ++ url.host ++ text "]"
    else url.host) ++
  (match url.port with
    | some port => text ":" ++ Text.ofInt port
    | none => [])

/-- A part that can be missing, after the mark that announces it. -/
def marked (mark : String) : Option Text → Text
  | some part => text mark ++ part
  | none => []

def write (url : Url) : Text :=
  (if url.scheme.isEmpty then [] else url.scheme ++ text ":") ++
  (if url.authority.isEmpty then [] else text "//" ++ url.authority) ++
  url.path ++ marked "?" url.query ++ marked "#" url.fragment

def target (url : Url) : Text :=
  (if url.path.isEmpty then text "/" else url.path) ++ marked "?" url.query

/-! ## Changing -/

/-- Parts that were in normal form are judged once more. -/
def reread (parts : UrlParts) (authority : Authority) : Except UrlFault Url :=
  match parts.tooLong? lengthLimit with
  | some part => .error (.partTooLong part)
  | none => ofParts parts authority

def parts (url : Url) : UrlParts :=
  ⟨url.scheme, url.authority, url.path, url.query, url.fragment⟩

def withTarget (target : Text) (url : Url) : Except UrlFault Url :=
  let (path, rest) := UrlParts.splitBefore (text "?") target
  let query := if rest.isEmpty then none else some (rest.drop 1)
  reread { url.parts with path := path, query := query } (.ofText url.authority)

def withHost (host : Text) (url : Url) : Except UrlFault Url :=
  let written := if host.contains (CodePoint.ofChar ':') then text "[" ++ host ++ text "]" else host
  reread url.parts { Authority.ofText url.authority with host := written }

/-- The address below which everything is asked for: its path ends in a slash. -/
def asBase (url : Url) : Except UrlFault Url :=
  if url.target.getLast? = some (CodePoint.ofChar '/') then .ok url
  else url.withTarget (url.target ++ text "/")

/-- The address of what a reference names below a base. -/
def below (base reference : Url) : Except UrlFault Url :=
  base.withTarget (base.target ++ Path.withoutRoot reference.target)

end Url

end SearchShell
