import SearchShell.Engine.Connection
import SearchShell.Proofs.Http.NormalForm

/-!
# Addresses below a base

The address of a resource is the base followed by the resource's path.  The path says
which resource is meant exactly when the base has no query, behind which the path would be
hidden, and none of the resource's parts is a dot segment, which would be resolved.
-/

set_option autoImplicit false

namespace SearchShell

namespace Url

/-- The resource that an address names below a base: what its path has after the base, cut
at the slashes and read part by part. -/
def resourceBelow? (url base : Url) : Option (List Text) :=
  if base.target.isPrefixOf url.path then
    ((url.path.drop base.target.length).splitOn Path.slash).mapM Path.unescape?
  else none

def rootedPath (url : Url) : Text := if url.path.isEmpty then text "/" else url.path

theorem target_eq (url : Url) : url.target = url.rootedPath ++ marked "?" url.query := rfl

theorem target_of_query_none {url : Url} (noQuery : url.query = none) :
    url.target = url.rootedPath := by
  rw [target_eq, noQuery, marked, List.append_nil]

theorem target_of_query_some {url : Url} {query : Text} (given : url.query = some query) :
    url.target = url.rootedPath ++ CodePoint.ofChar '?' :: query := by
  rw [target_eq, given]
  rfl

/-! ## Settled paths -/

/-- A path that stays as it is when it is put into an address once more. -/
structure IsSettled (path : Text) : Prop where
  quoted : IsQuoted escapedInPath path
  undotted : ∀ part ∈ path.splitOn Path.slash, ¬Path.IsDotSegment part

theorem IsSettled.rootedPath {url : Url} (settled : IsSettled url.path) :
    IsSettled url.rootedPath := by
  unfold Url.rootedPath
  split
  · exact ⟨by unfold IsQuoted; decide, by decide⟩
  · exact settled

theorem IsSettled.append_slash {path : Text} (settled : IsSettled path) :
    IsSettled (path ++ [Path.slash]) := by
  constructor
  · intro c member
    rcases List.mem_append.mp member with inPath | isSlash
    · exact settled.quoted c inPath
    · rw [List.mem_singleton.mp isSlash]
      exact slash_isPlain
  · intro part member
    rw [List.splitOn_append_cons_self, List.mem_append] at member
    rcases member with inPath | isNil
    · exact settled.undotted part inPath
    · rw [List.splitOn_nil, List.mem_singleton] at isNil
      subst isNil
      decide

/-- A path in normal form has no mark of a query. -/
theorem noMark_of_isQuoted {path : Text} (quoted : IsQuoted escapedInPath path) :
    ∀ c ∈ path, (text "?").contains c = false := by
  intro c member
  rw [← Bool.not_eq_true]
  intro isMark
  have marked : c = CodePoint.ofChar '?' := by simpa [text] using isMark
  have plain := quoted c member
  rw [marked] at plain
  exact absurd plain (by decide)

theorem NormalForm.settled {parts : UrlParts} {authority : Authority} {url : Url}
    (form : NormalForm parts authority url) (schemed : parts.scheme ≠ []) :
    IsSettled url.path := by
  obtain ⟨resolved, quoted, isResolved, -⟩ := form.path
  rw [isResolved schemed] at quoted
  exact ⟨isQuoted_of_quote quoted, undotted_quote quoted (Path.undotted_resolveDots _)⟩

theorem NormalForm.path_eq {parts : UrlParts} {authority : Authority} {url : Url}
    (form : NormalForm parts authority url) (schemed : parts.scheme ≠ [])
    (settled : IsSettled parts.path) : url.path = parts.path := by
  obtain ⟨resolved, quoted, isResolved, -⟩ := form.path
  rw [isResolved schemed, Path.resolveDots_of_undotted settled.undotted,
    quote_of_isQuoted settled.quoted] at quoted
  exact (Except.ok.inj quoted).symm

theorem NormalForm.scheme_ne_nil {parts : UrlParts} {authority : Authority} {url : Url}
    (form : NormalForm parts authority url) (schemed : parts.scheme ≠ []) : url.scheme ≠ [] := by
  rw [form.scheme, Text.toAsciiLower]
  simpa using schemed

/-! ## Bases -/

/-- What is asked for below the base continues its path, unless the base has a query. -/
structure IsBase (base : Url) : Prop where
  schemed : base.scheme ≠ []
  settled : IsSettled base.path
  closed : base.query = none → ∃ directory, base.target = directory ++ [Path.slash]

/-- What the base of an address is: the address itself if it asks for something that ends in a
slash, or else the address with a slash after its path or, if it has one, after its query. -/
theorem asBase_cases {url base : Url} (settled : IsSettled url.path) (ok : url.asBase = .ok base) :
    (base = url ∧ ∃ directory, url.target = directory ++ [Path.slash]) ∨
      (url.query = none ∧ NormalForm ⟨url.scheme, url.authority, url.rootedPath ++ [Path.slash],
        none, url.fragment⟩ (.ofText url.authority) base) ∨
      ∃ query, url.query = some query ∧ NormalForm ⟨url.scheme, url.authority, url.rootedPath,
        some (query ++ [Path.slash]), url.fragment⟩ (.ofText url.authority) base := by
  unfold asBase at ok
  split at ok
  next ends =>
    cases ok
    exact .inl ⟨rfl, List.getLast?_eq_some_iff.mp ends⟩
  next =>
    rw [Path.text_slash] at ok
    have rooted := settled.rootedPath
    refine .inr ?_
    cases query : url.query with
    | none =>
        rw [target_of_query_none query] at ok
        exact .inl ⟨rfl, NormalForm.of_withTarget
          (UrlParts.splitBefore_of_apart (noMark_of_isQuoted rooted.append_slash.quoted)) ok⟩
    | some given =>
        rw [target_of_query_some query, List.append_assoc, List.cons_append] at ok
        exact .inr ⟨given, rfl, NormalForm.of_withTarget
          (UrlParts.splitBefore_of_mark (noMark_of_isQuoted rooted.quoted) (by decide) _) ok⟩

theorem isBase_of_asBase {url base : Url} (schemed : url.scheme ≠ [])
    (settled : IsSettled url.path) (ok : url.asBase = .ok base) : IsBase base := by
  rcases asBase_cases settled ok with ⟨rfl, closed⟩ | ⟨query, form⟩ | ⟨query, given, form⟩
  · exact ⟨schemed, settled, fun _ => closed⟩
  · refine ⟨form.scheme_ne_nil schemed, form.settled schemed, fun noQuery => ⟨url.rootedPath, ?_⟩⟩
    rw [target_of_query_none noQuery, Url.rootedPath,
      form.path_eq schemed settled.rootedPath.append_slash]
    simp
  · exact ⟨form.scheme_ne_nil schemed, form.settled schemed,
      fun noQuery => absurd noQuery (form.query_of_some rfl)⟩

/-! ## References -/

structure IsReference (parts : List Text) : Prop where
  nonempty : parts ≠ []
  safe : ∀ part ∈ parts, ∀ c ∈ part, Path.isSafe c = true
  named : ∀ part ∈ parts, part ≠ []

theorem IsReference.apart {parts : List Text} (reference : IsReference parts) :
    ∀ part ∈ parts, Path.slash ∉ part :=
  fun part member inside => (isSafe_isPlain (reference.safe part member _ inside)).2 rfl

theorem IsReference.quoted {parts : List Text} (reference : IsReference parts) :
    IsQuoted escapedInPath (Text.joined [Path.slash] parts) := by
  intro c member
  rcases Text.mem_joined member with rfl | ⟨part, inParts, inPart⟩
  · exact slash_isPlain
  · exact (isSafe_isPlain (reference.safe part inParts c inPart)).1

theorem IsReference.head_ne_slash {parts : List Text} (reference : IsReference parts) :
    (Text.joined [Path.slash] parts).head? ≠ some Path.slash := by
  obtain ⟨part, rest, rfl⟩ := List.exists_cons_of_ne_nil reference.nonempty
  obtain ⟨c, others, rfl⟩ := List.exists_cons_of_ne_nil (reference.named part (by simp))
  have safe : Path.isSafe c = true := reference.safe (c :: others) (by simp) c (by simp)
  have notSlash : c ≠ Path.slash := (isSafe_isPlain safe).2
  by_cases alone : rest = []
  · simpa [alone, Text.joined_singleton] using notSlash
  · simpa [Text.joined_cons_of_ne_nil _ alone] using notSlash

theorem IsReference.quoted_path {parts : List Text} (reference : IsReference parts) :
    IsQuoted escapedInPath (Path.slash :: Text.joined [Path.slash] parts) := by
  intro c member
  rcases List.mem_cons.mp member with rfl | inside
  · exact slash_isPlain
  · exact reference.quoted c inside

theorem IsReference.apart_path {parts : List Text} (reference : IsReference parts) :
    ∀ c ∈ Path.slash :: Text.joined [Path.slash] parts, (text "?#").contains c = false := by
  intro c member
  rw [← Bool.not_eq_true]
  intro isMark
  have plain := reference.quoted_path c member
  have marked : c = CodePoint.ofChar '?' ∨ c = CodePoint.ofChar '#' := by
    simpa [text] using isMark
  rcases marked with rfl | rfl
  · exact absurd plain (by decide)
  · exact absurd plain (by decide)

/-- What is asked for by a reference is the reference itself. -/
theorem target_of_read {parts : List Text} (isReference : IsReference parts) {reference : Url}
    (ok : read (Path.slash :: Text.joined [Path.slash] parts) = .ok reference) :
    reference.target = Path.slash :: Text.joined [Path.slash] parts := by
  have form := NormalForm.of_read ok
  rw [UrlParts.ofText_path isReference.head_ne_slash isReference.apart_path] at form
  obtain ⟨resolved, quotedPath, -, unresolved⟩ := form.path
  rw [unresolved rfl rfl, quote_of_isQuoted isReference.quoted_path] at quotedPath
  rw [target_of_query_none (form.query_of_none rfl), Url.rootedPath, ← Except.ok.inj quotedPath]
  rfl

theorem withoutRoot_reference {parts : List Text} (isReference : IsReference parts) :
    Path.withoutRoot (Path.slash :: Text.joined [Path.slash] parts) =
      Text.joined [Path.slash] parts := by
  rw [Path.withoutRoot, List.dropWhile_cons_of_pos (by decide)]
  have notSlash := isReference.head_ne_slash
  cases path : Text.joined [Path.slash] parts with
  | nil => rfl
  | cons c rest =>
      rw [path, List.head?_cons, ne_eq, Option.some.injEq] at notSlash
      rw [List.dropWhile_cons_of_neg]
      exact fun isSlash => notSlash (of_decide_eq_true isSlash)

/-! ## Below a base -/

theorem resolveDots_continued {directory : Text} {parts : List Text}
    (isReference : IsReference parts)
    (undotted : ∀ part ∈ directory.splitOn Path.slash, ¬Path.IsDotSegment part) :
    Path.resolveDots (directory ++ [Path.slash] ++ Text.joined [Path.slash] parts) =
      Text.joined [Path.slash] (Path.resolveAll (directory.splitOn Path.slash) parts) := by
  have split : (directory ++ [Path.slash] ++ Text.joined [Path.slash] parts).splitOn Path.slash =
      directory.splitOn Path.slash ++ parts := by
    rw [List.append_assoc, List.singleton_append, List.splitOn_append_cons_self,
      Text.splitOn_joined isReference.nonempty isReference.apart]
  rw [Path.resolveDots_eq, split, Path.resolveAll_append,
    Path.resolveAll_of_undotted _ _ undotted, List.nil_append]

/-- The path below a base without a query: the parts of the reference are resolved after those
of the base. -/
theorem path_of_below {base reference url : Url} {parts : List Text} {directory : Text}
    (isBase : IsBase base) (isReference : IsReference parts)
    (target : base.target = directory ++ [Path.slash]) (noQuery : base.query = none)
    (asked : reference.target = Path.slash :: Text.joined [Path.slash] parts)
    (ok : base.below reference = .ok url) :
    url.path = Text.joined [Path.slash]
        (Path.resolveAll (directory.splitOn Path.slash) parts) ∧
      url.query = none := by
  have rooted : IsSettled (directory ++ [Path.slash]) := by
    rw [← target, target_of_query_none noQuery]
    exact isBase.settled.rootedPath
  have undotted : ∀ part ∈ directory.splitOn Path.slash, ¬Path.IsDotSegment part := by
    intro part member
    exact rooted.undotted part (by simp [List.splitOn_append_cons_self, member])
  have quoted : IsQuoted escapedInPath
      (directory ++ [Path.slash] ++ Text.joined [Path.slash] parts) := by
    intro c member
    rcases List.mem_append.mp member with inBase | inReference
    · exact rooted.quoted c inBase
    · exact isReference.quoted c inReference
  have stays : IsQuoted escapedInPath
      (Path.resolveDots (directory ++ [Path.slash] ++ Text.joined [Path.slash] parts)) := by
    intro c member
    rcases Path.mem_resolveDots member with rfl | inside
    · exact slash_isPlain
    · exact quoted c inside
  rw [below, asked, withoutRoot_reference isReference, target] at ok
  have form := NormalForm.of_withTarget
    (UrlParts.splitBefore_of_apart (noMark_of_isQuoted quoted)) ok
  obtain ⟨image, quotedPath, isResolved, -⟩ := form.path
  rw [isResolved isBase.schemed, quote_of_isQuoted stays,
    resolveDots_continued isReference undotted] at quotedPath
  exact ⟨(Except.ok.inj quotedPath).symm, form.query_of_none rfl⟩

/-- All addresses below one base are at the same server. -/
theorem sameServer_of_below {base first second a b : Url} (okA : base.below first = .ok a)
    (okB : base.below second = .ok b) :
    a.scheme = b.scheme ∧ a.authority = b.authority ∧ a.fragment = b.fragment :=
  NormalForm.sameServer (NormalForm.of_withTarget rfl okA) (NormalForm.of_withTarget rfl okB)
    rfl rfl

/-- Behind a query the path of a reference does not show. -/
theorem path_not_below_query {base reference url : Url} {query : Text} (isBase : IsBase base)
    (given : base.query = some query) (ok : base.below reference = .ok url) :
    ¬base.target <+: url.path := by
  have rooted := isBase.settled.rootedPath
  rw [below, target_of_query_some given, List.append_assoc, List.cons_append] at ok
  have form := NormalForm.of_withTarget
    (UrlParts.splitBefore_of_mark (noMark_of_isQuoted rooted.quoted) (by decide) _) ok
  intro isFront
  have inPath : CodePoint.ofChar '?' ∈ url.path :=
    isFront.subset (by rw [target_of_query_some given]; simp)
  have unmarked := noMark_of_isQuoted (form.settled isBase.schemed).quoted _ inPath
  exact absurd unmarked (by decide)

theorem mapM_unescape?_length : ∀ {parts segments : List Text},
    parts.mapM Path.unescape? = some segments → parts.length = segments.length := by
  intro parts
  induction parts with
  | nil =>
      intro segments mapped
      cases mapped
      rfl
  | cons part rest ih =>
      intro segments mapped
      rw [List.mapM_cons] at mapped
      obtain ⟨segment, -, mapped⟩ := Option.bind_eq_some_iff.mp mapped
      obtain ⟨others, restMapped, mapped⟩ := Option.bind_eq_some_iff.mp mapped
      cases mapped
      rw [List.length_cons, List.length_cons, ih restMapped]

/-- If the path below a directory continues it, its parts are those of the directory and those
of the rest. -/
theorem resolveAll_of_continued {directory rest : Text} {parts : List Text}
    (isReference : IsReference parts)
    (continued : directory ++ [Path.slash] ++ rest =
      Text.joined [Path.slash] (Path.resolveAll (directory.splitOn Path.slash) parts)) :
    Path.resolveAll (directory.splitOn Path.slash) parts =
      directory.splitOn Path.slash ++ rest.splitOn Path.slash := by
  have nonempty : Path.resolveAll (directory.splitOn Path.slash) parts ≠ [] := by
    intro none
    rw [none] at continued
    simp [Text.joined] at continued
  have apart : ∀ part ∈ Path.resolveAll (directory.splitOn Path.slash) parts,
      Path.slash ∉ part := by
    intro part kept
    rcases Path.mem_resolveAll kept with inDirectory | ⟨inParts, -⟩
    · exact Text.not_mem_of_mem_splitOn inDirectory
    · exact isReference.apart part inParts
  rw [← Text.splitOn_joined nonempty apart, ← continued, List.append_assoc, List.singleton_append,
    List.splitOn_append_cons_self]

section Resources

variable {base reference url : Url} {segments parts : List Text} {directory : Text}

/-- Dot segments leave fewer parts below the base than were asked for. -/
theorem undotted_of_resourceBelow? (isReference : IsReference parts)
    (escapes : Path.Escapes segments parts) (target : base.target = directory ++ [Path.slash])
    (path : url.path = Text.joined [Path.slash]
      (Path.resolveAll (directory.splitOn Path.slash) parts))
    (named : url.resourceBelow? base = some segments) :
    ∀ segment ∈ segments, ¬Path.IsDotSegment segment := by
  intro segment member dotted
  have shorter := Path.length_resolveAll_lt parts (directory.splitOn Path.slash)
    (escapes.isDotSegment.mpr ⟨segment, member, dotted⟩)
  rw [resourceBelow?] at named
  split at named
  next isFront =>
    obtain ⟨rest, split⟩ := List.isPrefixOf_iff_prefix.mp isFront
    rw [← split, List.drop_left] at named
    have restLength := mapM_unescape?_length named
    have sameLength := escapes.length_eq
    rw [resolveAll_of_continued isReference (target ▸ split.trans path),
      List.length_append] at shorter
    omega
  next => cases named

theorem resourceBelow?_of_undotted (isReference : IsReference parts)
    (escapes : Path.Escapes segments parts) (target : base.target = directory ++ [Path.slash])
    (path : url.path = Text.joined [Path.slash]
      (Path.resolveAll (directory.splitOn Path.slash) parts))
    (undotted : ∀ segment ∈ segments, ¬Path.IsDotSegment segment) :
    url.resourceBelow? base = some segments := by
  have noDots : ∀ part ∈ parts, ¬Path.IsDotSegment part := by
    intro part member dotted
    obtain ⟨segment, inSegments, dottedSegment⟩ :=
      escapes.isDotSegment.mp ⟨part, member, dotted⟩
    exact undotted segment inSegments dottedSegment
  have continued : url.path = base.target ++ Text.joined [Path.slash] parts := by
    rw [path, Path.resolveAll_of_undotted _ _ noDots,
      Text.joined_append _ _ (List.splitOn_ne_nil Path.slash directory) isReference.nonempty,
      Text.joined_splitOn, target, List.append_assoc, List.singleton_append]
  have isFront : base.target.isPrefixOf url.path = true := by
    rw [List.isPrefixOf_iff_prefix, continued]
    exact List.prefix_append _ _
  rw [resourceBelow?, if_pos isFront, continued, List.drop_left,
    Text.splitOn_joined isReference.nonempty isReference.apart, escapes.mapM_unescape?]

/-- The path below a base names the resource exactly when it is neither hidden nor resolved. -/
theorem resourceBelow?_eq_some_iff (isBase : IsBase base) (isReference : IsReference parts)
    (escapes : Path.Escapes segments parts)
    (asked : reference.target = Path.slash :: Text.joined [Path.slash] parts)
    (ok : base.below reference = .ok url) :
    url.resourceBelow? base = some segments ↔
      base.query = none ∧ ∀ segment ∈ segments, ¬Path.IsDotSegment segment := by
  cases query : base.query with
  | some given =>
      have hidden := path_not_below_query isBase query ok
      rw [← List.isPrefixOf_iff_prefix] at hidden
      simp [resourceBelow?, hidden]
  | none =>
      obtain ⟨directory, target⟩ := isBase.closed query
      obtain ⟨path, -⟩ := path_of_below isBase isReference target query asked ok
      constructor
      · intro named
        exact ⟨rfl, undotted_of_resourceBelow? isReference escapes target path named⟩
      · rintro ⟨-, undotted⟩
        exact resourceBelow?_of_undotted isReference escapes target path undotted

end Resources

end Url

end SearchShell
