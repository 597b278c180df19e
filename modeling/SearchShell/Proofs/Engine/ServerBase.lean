import SearchShell.Engine.Connection
import SearchShell.Proofs.Http.LastPart

/-!
# The base of a server

Whatever the settings say, the address below which a server is asked is a base.  A host
without the marks that end a host is all that it consists of.
-/

set_option autoImplicit false

namespace SearchShell

namespace Connection

theorem http_ne_nil : text "http" ≠ [] := by decide

theorem scheme_serverAddress (settings : Settings) :
    UrlParts.splitScheme settings.serverAddress =
      (text "http", text "//" ++ settings.host ++ text ":" ++ Text.ofInt settings.port) := by
  have address : settings.serverAddress = text "http" ++ CodePoint.ofChar ':' ::
      (text "//" ++ settings.host ++ text ":" ++ Text.ofInt settings.port) := by
    simp [Settings.serverAddress, text]
  rw [address]
  exact UrlParts.splitScheme_colon (by decide) _

theorem schemed_serverAddress (settings : Settings) :
    (UrlParts.ofText settings.serverAddress).scheme ≠ [] := by
  rw [show (UrlParts.ofText settings.serverAddress).scheme =
    (UrlParts.splitScheme settings.serverAddress).1 from rfl, scheme_serverAddress]
  exact http_ne_nil

theorem isBase_of_base {settings : Settings} {url : Url} (ok : base settings = .ok url) :
    url.IsBase := by
  simp only [base, Outcome.bind_eq_ok_iff] at ok
  obtain ⟨server, read, asBase⟩ := ok
  have form := Url.NormalForm.of_read read
  have schemed := schemed_serverAddress settings
  exact Url.isBase_of_asBase (form.scheme_ne_nil schemed) (form.settled schemed) asBase

theorem mem_ofInt {n : Int} {c : CodePoint} (member : c ∈ Text.ofInt n) :
    (text "/?#").contains c = false := by
  have digits {k : Nat} (inDigits : c ∈ Text.ofNat k) : (text "/?#").contains c = false := by
    obtain ⟨digit, isDigit, rfl⟩ := List.mem_map.mp inDigits
    have decimal := Nat.isDigit_of_mem_toDigits (by decide) (by decide) isDigit
    rw [← Bool.not_eq_true]
    intro isMark
    have marks : digit = '/' ∨ digit = '?' ∨ digit = '#' := by simpa [text] using isMark
    rcases marks with rfl | rfl | rfl
    · exact absurd decimal (by decide)
    · exact absurd decimal (by decide)
    · exact absurd decimal (by decide)
  cases n with
  | ofNat k => exact digits member
  | negSucc k =>
      rcases List.mem_cons.mp member with rfl | inDigits
      · decide
      · exact digits inDigits

/-- Only a host with the mark of a query gives the base a query, which then ends in a slash. -/
theorem query_of_base {settings : Settings} {url : Url} (ok : base settings = .ok url)
    {query : Text} (given : url.query = some query) :
    CodePoint.ofChar '?' ∈ settings.host ∧ ∃ front, query = front ++ [Path.slash] := by
  simp only [base, Outcome.bind_eq_ok_iff] at ok
  obtain ⟨server, read, asBase⟩ := ok
  have form := Url.NormalForm.of_read read
  obtain ⟨missing, closed⟩ :=
    Url.query_of_asBase (form.settled (schemed_serverAddress settings)) asBase
  refine ⟨?_, closed query given⟩
  cases written : (UrlParts.ofText settings.serverAddress).query with
  | none =>
      rw [missing (form.query_of_none written)] at given
      cases given
  | some announced =>
      have inAddress := UrlParts.mark_of_query written
      have notInPort : CodePoint.ofChar '?' ∉ Text.ofInt settings.port :=
        fun inside => absurd (mem_ofInt inside) (by decide)
      have notBefore : CodePoint.ofChar '?' ∉ text "http://" := by decide
      have notBetween : CodePoint.ofChar '?' ∉ text ":" := by decide
      simpa [Settings.serverAddress, notBefore, notBetween, notInPort] using inAddress

/-- The parts of the address of a host that is no more than a host. -/
theorem parts_of_plainHost {settings : Settings}
    (plain : ∀ c ∈ settings.host, (text "/?#").contains c = false) :
    UrlParts.ofText settings.serverAddress =
      ⟨text "http", settings.host ++ text ":" ++ Text.ofInt settings.port, [], none, none⟩ := by
  have apart : ∀ c ∈ settings.host ++ text ":" ++ Text.ofInt settings.port,
      (text "/?#").contains c = false := by
    intro c member
    rcases List.mem_append.mp member with inServer | inPort
    · rcases List.mem_append.mp inServer with inHost | isColon
      · exact plain c inHost
      · have colons : ∀ d ∈ text ":", (text "/?#").contains d = false := by decide
        exact colons c isColon
    · exact mem_ofInt inPort
  have server : (text "//").isPrefixOf
      (text "//" ++ settings.host ++ text ":" ++ Text.ofInt settings.port) = true := by
    rw [List.isPrefixOf_iff_prefix]
    exact ⟨settings.host ++ (text ":" ++ Text.ofInt settings.port), by simp⟩
  have dropped : (text "//" ++ settings.host ++ text ":" ++ Text.ofInt settings.port).drop 2 =
      settings.host ++ text ":" ++ Text.ofInt settings.port := rfl
  simp only [UrlParts.ofText, scheme_serverAddress, server, if_true, dropped,
    UrlParts.splitBefore_of_apart apart]
  rfl

/-- A host that is no more than a host leaves the path to the resources. -/
theorem base_of_plainHost {settings : Settings} {url : Url} (ok : base settings = .ok url)
    (plain : ∀ c ∈ settings.host, (text "/?#").contains c = false) :
    url.target = [Path.slash] ∧ url.query = none := by
  simp only [base, Outcome.bind_eq_ok_iff] at ok
  obtain ⟨server, read, asBase⟩ := ok
  have form := Url.NormalForm.of_read read
  rw [parts_of_plainHost plain] at form
  obtain ⟨resolved, quoted, isResolved, -⟩ := form.path
  rw [isResolved http_ne_nil] at quoted
  have noPath : server.path = [] := (Except.ok.inj quoted).symm
  have noQuery : server.query = none := form.query_of_none rfl
  have target : server.target = [Path.slash] := by
    rw [Url.target_of_query_none noQuery, Url.rootedPath, noPath]
    rfl
  unfold Url.asBase at asBase
  rw [target] at asBase
  cases asBase
  exact ⟨target, noQuery⟩

end Connection

end SearchShell
