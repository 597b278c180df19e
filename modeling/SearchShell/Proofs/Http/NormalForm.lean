import Mathlib.Data.List.TakeWhile
import SearchShell.Proofs.Http.Quoting

/-!
# Normal forms of addresses

Every address that is read or changed consists of its parts in their normal form.  The
server of the normal form depends on the scheme and the server's part alone, so two
addresses below one server are written alike only if their paths are the same.
-/

set_option autoImplicit false

namespace SearchShell

namespace UrlParts

/-! ## Cutting -/

theorem splitBefore_of_apart {ends s : Text} (apart : ∀ c ∈ s, ends.contains c = false) :
    splitBefore ends s = (s, []) := by
  have plain : ∀ c ∈ s, (!ends.contains c) = true := by
    intro c member
    rw [apart c member]
    rfl
  rw [splitBefore, List.takeWhile_eq_self_iff.mpr plain, List.dropWhile_eq_nil_iff.mpr plain]

theorem splitBefore_of_mark {ends s : Text} (apart : ∀ c ∈ s, ends.contains c = false)
    {mark : CodePoint} (isMark : ends.contains mark = true) (rest : Text) :
    splitBefore ends (s ++ mark :: rest) = (s, mark :: rest) := by
  have plain : ∀ c ∈ s, (!ends.contains c) = true := by
    intro c member
    rw [apart c member]
    rfl
  have stop : (!ends.contains mark) = false := by
    rw [isMark]
    rfl
  rw [splitBefore, Text.takeWhile_append_cons plain stop, Text.dropWhile_append_cons plain stop]

def inScheme (c : CodePoint) : Bool :=
  c.isAsciiLetter || c.isAsciiDigit || (text "+.-").contains c

theorem splitScheme_colon {scheme : Text}
    (letters : ∀ c ∈ scheme, c.isAsciiLetter = true) (rest : Text) :
    splitScheme (scheme ++ CodePoint.ofChar ':' :: rest) = (scheme, rest) := by
  have before : ∀ c ∈ scheme, inScheme c = true := by
    intro c member
    simp [inScheme, letters c member]
  have stop : inScheme (CodePoint.ofChar ':') = false := by decide
  have taken : (scheme ++ CodePoint.ofChar ':' :: rest).takeWhile (fun c =>
      c.isAsciiLetter || c.isAsciiDigit || (text "+.-").contains c) = scheme :=
    Text.takeWhile_append_cons before stop rest
  have isScheme : (scheme.isEmpty || scheme.head?.any CodePoint.isAsciiLetter) = true := by
    cases scheme with
    | nil => rfl
    | cons c others => simp [letters c (by simp)]
  unfold splitScheme
  simp only [taken, isScheme]
  simp

theorem splitScheme_slash (tail : Text) :
    splitScheme (Path.slash :: tail) = ([], Path.slash :: tail) := by
  have none : (Path.slash :: tail).takeWhile (fun c =>
      c.isAsciiLetter || c.isAsciiDigit || (text "+.-").contains c) = [] :=
    List.takeWhile_cons_of_neg (by decide)
  have notColon : Path.slash ≠ CodePoint.ofChar ':' := by decide
  unfold splitScheme
  simp only [none]
  simp [notColon]

/-- What begins with a single slash and holds no mark of a query or a fragment is a path. -/
theorem ofText_path {tail : Text} (single : tail.head? ≠ some Path.slash)
    (apart : ∀ c ∈ Path.slash :: tail, (text "?#").contains c = false) :
    ofText (Path.slash :: tail) = ⟨[], [], Path.slash :: tail, none, none⟩ := by
  have noServer : ¬(text "//").isPrefixOf (Path.slash :: tail) = true := by
    intro doubled
    have slashes : text "//" = [Path.slash, Path.slash] := by decide
    rw [slashes, List.isPrefixOf_iff_prefix, List.cons_prefix_cons] at doubled
    obtain ⟨-, rest, split⟩ := doubled
    exact single (by rw [← split]; rfl)
  simp only [ofText, splitScheme_slash, noServer, Bool.false_eq_true, if_false,
    splitBefore_of_apart apart, List.head?_nil, reduceCtorEq, List.isEmpty_nil, if_true]

/-- A query is announced by its mark. -/
theorem mark_of_query {s query : Text} (given : (ofText s).query = some query) :
    CodePoint.ofChar '?' ∈ s := by
  have schemed : (splitScheme s).2 <:+ s := by
    unfold splitScheme
    simp only
    split
    · exact List.drop_suffix _ _
    · exact List.suffix_refl s
  have served : (if (text "//").isPrefixOf (splitScheme s).2 then
        splitBefore (text "/?#") ((splitScheme s).2.drop 2)
      else ([], (splitScheme s).2)).2 <:+ s := by
    split
    · exact ((List.dropWhile_suffix _).trans (List.drop_suffix _ _)).trans schemed
    · exact schemed
  simp only [ofText] at given
  generalize (if (text "//").isPrefixOf (splitScheme s).2 then
        splitBefore (text "/?#") ((splitScheme s).2.drop 2)
      else ([], (splitScheme s).2)) = server at served given
  split at given
  next isMark =>
    exact ((List.dropWhile_suffix _).trans served).subset (List.mem_of_mem_head? isMark)
  next => cases given

end UrlParts

namespace Url

/-! ## Parts in their normal form -/

structure NormalForm (parts : UrlParts) (authority : Authority) (url : Url) : Prop where
  scheme : url.scheme = parts.scheme.toAsciiLower
  userInfo : quote escapedInUserInfo authority.userInfo = .ok url.userInfo
  host : Host.normal authority.host = .ok url.host
  port : readPort parts.scheme authority.port = .ok url.port
  path : ∃ resolved, quote escapedInPath resolved = .ok url.path ∧
    (parts.scheme ≠ [] → resolved = Path.resolveDots parts.path) ∧
    (parts.scheme = [] → authority = ⟨[], [], []⟩ → resolved = parts.path)
  query : quote? escapedInQuery parts.query = .ok url.query
  fragment : quote? escapedInFragment parts.fragment = .ok url.fragment

theorem NormalForm.of_ofParts {parts : UrlParts} {authority : Authority} {url : Url}
    (ok : ofParts parts authority = .ok url) : NormalForm parts authority url := by
  simp only [ofParts, Outcome.bind_eq_ok_iff] at ok
  obtain ⟨userInfo, userInfoOk, host, hostOk, port, portOk, -, -, path, pathOk, query, queryOk,
    fragment, fragmentOk, same⟩ := ok
  cases same
  refine ⟨rfl, userInfoOk, hostOk, portOk, ⟨_, pathOk, ?_, ?_⟩, queryOk, fragmentOk⟩
  · intro schemed
    simp [schemed]
  · rintro unschemed rfl
    cases userInfoOk
    cases hostOk
    cases portOk
    simp [unschemed]

theorem NormalForm.of_read {s : Text} {url : Url} (ok : read s = .ok url) :
    NormalForm (UrlParts.ofText s) (.ofText (UrlParts.ofText s).authority) url := by
  unfold read at ok
  split at ok
  · cases ok
  · split at ok
    · cases ok
    · exact .of_ofParts ok

theorem NormalForm.of_reread {parts : UrlParts} {authority : Authority} {url : Url}
    (ok : reread parts authority = .ok url) : NormalForm parts authority url := by
  unfold reread at ok
  split at ok
  · cases ok
  · exact .of_ofParts ok

/-- The normal form of the address with another path and query. -/
theorem NormalForm.of_withTarget {url changed : Url} {target path rest : Text}
    (cut : UrlParts.splitBefore (text "?") target = (path, rest))
    (ok : url.withTarget target = .ok changed) :
    NormalForm ⟨url.scheme, url.authority, path,
        if rest.isEmpty then none else some (rest.drop 1), url.fragment⟩
      (.ofText url.authority) changed := by
  simp only [withTarget, cut] at ok
  exact .of_reread ok

theorem NormalForm.query_of_none {parts : UrlParts} {authority : Authority} {url : Url}
    (form : NormalForm parts authority url) (missing : parts.query = none) :
    url.query = none := by
  have query := form.query
  rw [missing, quote?] at query
  exact (Except.ok.inj query).symm

theorem NormalForm.query_of_some {parts : UrlParts} {authority : Authority} {url : Url}
    (form : NormalForm parts authority url) {query : Text} (given : parts.query = some query) :
    url.query ≠ none := by
  have normal := form.query
  rw [given, quote?, Outcome.map_eq_ok_iff] at normal
  obtain ⟨written, -, isQuery⟩ := normal
  simp [← isQuery]

/-- The server and the fragment are those of the same parts, whatever the path is. -/
theorem NormalForm.sameServer {first second : UrlParts} {authority : Authority} {a b : Url}
    (formA : NormalForm first authority a) (formB : NormalForm second authority b)
    (scheme : first.scheme = second.scheme) (fragment : first.fragment = second.fragment) :
    a.scheme = b.scheme ∧ a.authority = b.authority ∧ a.fragment = b.fragment := by
  have userInfo : a.userInfo = b.userInfo :=
    Except.ok.inj (formA.userInfo.symm.trans formB.userInfo)
  have host : a.host = b.host := Except.ok.inj (formA.host.symm.trans formB.host)
  have port : a.port = b.port := by
    have portA := formA.port
    rw [scheme] at portA
    exact Except.ok.inj (portA.symm.trans formB.port)
  refine ⟨by rw [formA.scheme, formB.scheme, scheme], ?_, ?_⟩
  · simp only [Url.authority, userInfo, host, port]
  · have fragmentA := formA.fragment
    rw [fragment] at fragmentA
    exact Except.ok.inj (fragmentA.symm.trans formB.fragment)

theorem path_eq_of_write_eq {a b : Url} (scheme : a.scheme = b.scheme)
    (authority : a.authority = b.authority) (fragment : a.fragment = b.fragment)
    (queryA : a.query = none) (queryB : b.query = none) (written : a.write = b.write) :
    a.path = b.path := by
  simp only [write, scheme, authority, fragment, queryA, queryB, List.append_assoc] at written
  have paths := List.append_cancel_left (List.append_cancel_left written)
  exact List.append_cancel_right paths

end Url

end SearchShell
