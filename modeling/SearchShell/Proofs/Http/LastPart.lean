import SearchShell.Proofs.Http.Room

/-!
# The end of an address

Whatever comes before it, the last name of a reference is the last part of the address that the
reference leads to, unless it is a dot segment: a later name is not undone by earlier dots.  It is
the last part of the path, or of the query when the base has one.
-/

set_option autoImplicit false

namespace SearchShell

namespace Path

def lastPart? (path : Text) : Option Text := (path.splitOn slash).getLast?

theorem lastPart?_append_slash (before after : Text) :
    lastPart? (before ++ slash :: after) = lastPart? after := by
  rw [lastPart?, List.splitOn_append_cons_self, List.getLast?_append_of_ne_nil]
  · rfl
  · exact List.splitOn_ne_nil slash after

theorem lastPart?_joined {parts : List Text} (nonempty : parts ≠ [])
    (apart : ∀ part ∈ parts, slash ∉ part) :
    lastPart? (Text.joined [slash] parts) = parts.getLast? := by
  rw [lastPart?, Text.splitOn_joined nonempty apart]

/-- Only dots that come later undo a part. -/
theorem getLast?_resolveAll {last : Text} (undotted : ¬IsDotSegment last)
    (kept before : List Text) : (resolveAll kept (before ++ [last])).getLast? = some last := by
  rw [resolveAll_append, resolveAll_cons, resolveAll_nil,
    resolveStep_of_not_dotSegment _ _ undotted, List.getLast?_concat]

end Path

namespace Url

/-! ## Quoting piece by piece -/

theorem quote_append (escaped second : Text) : ∀ {first out : Text},
    quote escaped (first ++ second) = .ok out →
      ∃ image tail, quote escaped first = .ok image ∧ quote escaped second = .ok tail ∧
        out = image ++ tail := by
  intro first
  induction first with
  | nil => exact fun quoted => ⟨[], _, rfl, quoted, rfl⟩
  | cons c rest ih =>
      intro out quoted
      obtain ⟨head, later, one, others, rfl⟩ :=
        (quote_cons escaped c (rest ++ second) out).mp quoted
      obtain ⟨image, tail, inFirst, inSecond, rfl⟩ := ih others
      exact ⟨head ++ image, tail,
        (quote_cons escaped c rest _).mpr ⟨head, image, one, inFirst, rfl⟩,
        inSecond, (List.append_assoc head image tail).symm⟩

theorem IsQuoted.inQuery {part : Text} (quoted : IsQuoted escapedInPath part) :
    IsQuoted escapedInQuery part := by
  have fewer : ∀ c ∈ escapedInQuery, c ∈ escapedInPath := by decide
  intro c member
  have plain := quoted c member
  simp only [isPlainBut, Bool.and_eq_true, Bool.not_eq_true', List.contains_eq_mem,
    decide_eq_false_iff_not] at plain ⊢
  exact ⟨plain.1, fun escaped => plain.2 (fewer c escaped)⟩

/-- A quoted query keeps what follows its last slash, if that is plain. -/
theorem quote_query_continued {front tail out : Text} (plain : IsQuoted escapedInPath tail)
    (quoted : quote escapedInQuery (front ++ Path.slash :: tail) = .ok out) :
    ∃ image, out = image ++ Path.slash :: tail := by
  obtain ⟨image, rest, -, restQuoted, rfl⟩ := quote_append _ _ quoted
  have stays : IsQuoted escapedInPath (Path.slash :: tail) := by
    intro c member
    rcases List.mem_cons.mp member with rfl | inTail
    · exact slash_isPlain
    · exact plain c inTail
  rw [quote_of_isQuoted stays.inQuery] at restQuoted
  cases restQuoted
  exact ⟨image, rfl⟩

/-! ## Queries of bases -/

/-- A base has a query only if the server's address has one, and then the query ends in a slash,
where the path would have ended in one. -/
theorem query_of_asBase {url base : Url} (settled : IsSettled url.path)
    (ok : url.asBase = .ok base) :
    (url.query = none → base.query = none) ∧
      ∀ query ∈ base.query, ∃ front, query = front ++ [Path.slash] := by
  rcases asBase_cases settled ok with ⟨rfl, directory, ends⟩ | ⟨-, form⟩ | ⟨written, isQuery, form⟩
  · refine ⟨id, fun query given => ?_⟩
    rw [Option.mem_def] at given
    have isLast : (base.rootedPath ++ CodePoint.ofChar '?' :: query).getLast? =
        some Path.slash := by
      rw [← target_of_query_some given, ends, List.getLast?_concat]
    rw [List.getLast?_append_of_ne_nil _ (by simp)] at isLast
    -- The mark of the query is no slash, so something follows it.
    cases query with
    | nil => exact absurd isLast (by decide)
    | cons c rest => exact List.getLast?_eq_some_iff.mp isLast
  · have missing : base.query = none := form.query_of_none rfl
    exact ⟨fun _ => missing, by simp [missing]⟩
  · refine ⟨fun none => absurd (isQuery.symm.trans none) nofun, fun query given => ?_⟩
    obtain ⟨out, quoted, same⟩ := (Outcome.map_eq_ok_iff _ _ _).mp form.query
    rw [← same, Option.mem_some] at given
    exact quote_query_continued (by simp [IsQuoted]) (given ▸ quoted)

/-! ## Below a base -/

variable {base reference url : Url} {before : List Text} {last : Text}

theorem lastPart?_path_of_below (isBase : IsBase base)
    (isReference : IsReference (before ++ [last])) (undotted : ¬Path.IsDotSegment last)
    (noQuery : base.query = none)
    (asked : reference.target = Path.slash :: Text.joined [Path.slash] (before ++ [last]))
    (ok : base.below reference = .ok url) : Path.lastPart? url.path = some last := by
  obtain ⟨directory, target⟩ := isBase.closed noQuery
  have ends := Path.getLast?_resolveAll undotted (directory.splitOn Path.slash) before
  have apart : ∀ part ∈ Path.resolveAll (directory.splitOn Path.slash) (before ++ [last]),
      Path.slash ∉ part := by
    intro part kept
    rcases Path.mem_resolveAll kept with inDirectory | ⟨inReference, -⟩
    · exact Text.not_mem_of_mem_splitOn inDirectory
    · exact isReference.apart part inReference
  rw [(path_of_below isBase isReference target noQuery asked ok).1, Path.lastPart?_joined _ apart]
  · exact ends
  · intro none
    rw [none] at ends
    cases ends

theorem lastPart?_query_of_below {front : Text} (isBase : IsBase base)
    (isReference : IsReference (before ++ [last]))
    (given : base.query = some (front ++ [Path.slash]))
    (asked : reference.target = Path.slash :: Text.joined [Path.slash] (before ++ [last]))
    (ok : base.below reference = .ok url) :
    ∃ query, url.query = some query ∧ Path.lastPart? query = some last := by
  rw [below, asked, withoutRoot_reference isReference,
    withTarget_extended isBase isReference.quoted] at ok
  have form := NormalForm.of_reread ok
  have quoted := form.query
  simp only [extendedParts, given, quote?, Outcome.map_eq_ok_iff, List.append_assoc,
    List.singleton_append] at quoted
  obtain ⟨out, isQuoted, isQuery⟩ := quoted
  obtain ⟨image, rfl⟩ := quote_query_continued isReference.quoted isQuoted
  refine ⟨_, isQuery.symm, ?_⟩
  rw [Path.lastPart?_append_slash, Path.lastPart?_joined isReference.nonempty isReference.apart,
    List.getLast?_concat]

end Url

end SearchShell
