import SearchShell.Proofs.Http.Escaping
import SearchShell.Text.Basic

/-!
# The text of a path

A path is a slash for every segment, each followed by code points that stand for themselves and by
escapes of the others.  It therefore holds no delimiter of an address but the slash, and no blank.
Taken apart at its slashes it gives the segments back, so that different lists of segments have
different paths.
-/

set_option autoImplicit false

namespace SearchShell

namespace Path

def isUpperHexDigit (c : CodePoint) : Bool := c.isAsciiDigit || (0x41 ≤ c.val && c.val ≤ 0x46)

def standsForItself (c : CodePoint) : Bool :=
  c.isAsciiLetter || c.isAsciiDigit || (text "_.-~,*").contains c

inductive IsPathText : Text → Prop
  | nil : IsPathText []
  | slash {rest : Text} (later : IsPathText rest) : IsPathText (Path.slash :: rest)
  | plain {c : CodePoint} {rest : Text} (itself : standsForItself c = true)
      (later : IsPathText rest) : IsPathText (c :: rest)
  | escaped {high low : CodePoint} {rest : Text} (isHigh : isUpperHexDigit high = true)
      (isLow : isUpperHexDigit low = true) (later : IsPathText rest) :
      IsPathText (CodePoint.ofChar '%' :: high :: low :: rest)

/-! ## What a path is made of -/

theorem IsPathText.append {first second : Text} (isFirst : IsPathText first)
    (isSecond : IsPathText second) : IsPathText (first ++ second) := by
  induction isFirst with
  | nil => exact isSecond
  | slash later ih => exact .slash ih
  | plain itself later ih => exact .plain itself ih
  | escaped isHigh isLow later ih => exact .escaped isHigh isLow ih

theorem isPathText_escapeOctet (octet : UInt8) : IsPathText (escapeOctet octet) := by
  have itself := forall_octet (p := fun octet => isPlain octet = true →
    standsForItself (CodePoint.ofChar (Char.ofNat octet.toNat)) = true) (by decide +kernel)
  have digit : ∀ n : Fin 16, isUpperHexDigit (CodePoint.ofUpperHexValue n.val) = true := by
    decide
  have bound := octet.toNat_lt
  unfold escapeOctet
  split
  next plain => exact .plain (itself octet plain) .nil
  next =>
    have isHigh := digit ⟨octet.toNat / 16, by omega⟩
    have isLow := digit ⟨octet.toNat % 16, by omega⟩
    exact .escaped isHigh isLow .nil

theorem isPathText_of_escape {segment escaped : Text} (ok : escape segment = .ok escaped) :
    IsPathText escaped := by
  obtain ⟨rfl, -⟩ := (escape_eq_ok_iff segment escaped).mp ok
  generalize Utf8.spell segment = octets
  induction octets with
  | nil => exact .nil
  | cons octet rest ih => exact (isPathText_escapeOctet octet).append ih

theorem Escapes.isPathText {segments escaped : List Text} (each : Escapes segments escaped) :
    IsPathText (Text.joined [slash] escaped) := by
  induction each with
  | nil => exact .nil
  | @cons segment part segments rest head tail ih =>
      by_cases single : rest = []
      · rw [single, Text.joined_singleton]
        exact isPathText_of_escape head
      · rw [Text.joined_cons_of_ne_nil part single]
        exact (isPathText_of_escape head).append (.slash ih)

/-! ## What no path holds -/

theorem isSafe_of_standsForItself {c : CodePoint} (itself : standsForItself c = true) :
    isSafe c = true := by
  have more : ∀ d ∈ text "_.-~,*", d ∈ text "_.-~,*%" := by decide
  simp only [standsForItself, isSafe, Bool.or_eq_true, List.contains_iff_mem] at itself ⊢
  exact itself.imp_right (more c)

theorem isSafe_of_isUpperHexDigit {c : CodePoint} (isDigit : isUpperHexDigit c = true) :
    isSafe c = true := by
  simp only [isUpperHexDigit, isSafe, CodePoint.isAsciiLetter, CodePoint.isAsciiUpper,
    Bool.or_eq_true, Bool.and_eq_true, decide_eq_true_eq] at isDigit ⊢
  rcases isDigit with digit | ⟨atLeast, atMost⟩
  · exact Or.inl (Or.inr digit)
  · exact Or.inl (Or.inl (Or.inl ⟨atLeast, Nat.le_trans atMost (by decide)⟩))

theorem IsPathText.eq_slash_or_isSafe {s : Text} (isPathText : IsPathText s) :
    ∀ c ∈ s, c = Path.slash ∨ isSafe c = true := by
  induction isPathText with
  | nil => simp
  | slash later ih => exact List.forall_mem_cons.mpr ⟨Or.inl rfl, ih⟩
  | plain itself later ih =>
      exact List.forall_mem_cons.mpr ⟨Or.inr (isSafe_of_standsForItself itself), ih⟩
  | escaped isHigh isLow later ih =>
      refine List.forall_mem_cons.mpr ⟨Or.inr (by decide), ?_⟩
      refine List.forall_mem_cons.mpr ⟨Or.inr (isSafe_of_isUpperHexDigit isHigh), ?_⟩
      exact List.forall_mem_cons.mpr ⟨Or.inr (isSafe_of_isUpperHexDigit isLow), ih⟩

/-- What stands for itself neither ends a path nor parts it. -/
theorem not_delimiter_of_isSafe {c : CodePoint} (safe : isSafe c = true) :
    c ∉ text "/?#:@" ∧ c.isBlank = false :=
  forall_isSafe (p := fun c => c ∉ text "/?#:@" ∧ c.isBlank = false) (by decide +kernel) safe

theorem IsPathText.not_delimiter {s : Text} (isPathText : IsPathText s) :
    ∀ c ∈ s, c ∉ text "?#:@" ∧ c.isBlank = false := by
  have fewer : ∀ d ∈ text "?#:@", d ∈ text "/?#:@" := by decide
  intro c member
  rcases isPathText.eq_slash_or_isSafe c member with rfl | safe
  · decide
  · obtain ⟨apart, unbroken⟩ := not_delimiter_of_isSafe safe
    exact ⟨fun delimits => apart (fewer c delimits), unbroken⟩

theorem Escapes.apart {segments escaped : List Text} (each : Escapes segments escaped) :
    ∀ part ∈ escaped, slash ∉ part := by
  intro part member inPart
  have safe := each.isSafe part member slash inPart
  revert safe
  decide

/-- What is escaped is found again between the slashes. -/
theorem Escapes.splitOn_joined {segments escaped : List Text} (each : Escapes segments escaped)
    (nonempty : segments ≠ []) : (Text.joined [slash] escaped).splitOn slash = escaped := by
  refine Text.splitOn_joined ?_ each.apart
  rintro rfl
  exact nonempty (List.forall₂_nil_right_iff.mp each)

/-! ## Which lists have a path -/

theorem Escapes.proper {segments escaped : List Text} (each : Escapes segments escaped) :
    ∀ segment ∈ segments, ∀ c ∈ segment, c.isSurrogate = false := by
  induction each with
  | nil => simp
  | cons head tail ih =>
      exact List.forall_mem_cons.mpr ⟨((escape_eq_ok_iff _ _).mp head).2, ih⟩

theorem ofSegments_isOk_iff (segments : List Text) : (∃ path, ofSegments segments = .ok path) ↔
    ∀ segment ∈ segments, ∀ c ∈ segment, c.isSurrogate = false := by
  constructor
  · rintro ⟨path, written⟩
    obtain ⟨escaped, each, -⟩ := (ofSegments_eq_ok_iff segments path).mp written
    exact each.proper
  · intro proper
    let escapeProper (segment : Text) : Text := (Utf8.spell segment).flatMap escapeOctet
    have each : Escapes segments (segments.map escapeProper) := by
      refine List.forall₂_map_right_iff.mpr (List.forall₂_same.mpr ?_)
      exact fun segment member => (escape_eq_ok_iff segment _).mpr ⟨rfl, proper segment member⟩
    exact ⟨_, (ofSegments_eq_ok_iff segments _).mpr ⟨_, each, rfl⟩⟩

theorem ofSegments_isError_iff (segments : List Text) :
    (∃ fault, ofSegments segments = .error fault) ↔
      ∃ segment ∈ segments, ∃ c ∈ segment, c.isSurrogate = true := by
  have notOk : (∃ fault, ofSegments segments = .error fault) ↔
      ¬ ∃ path, ofSegments segments = .ok path := by
    cases ofSegments segments with
    | ok path => simp
    | error fault => simp
  simp only [notOk, ofSegments_isOk_iff, not_forall, Bool.not_eq_false, exists_prop]

/-! ## Paths and their segments -/

section Written

variable {segments : List Text} {path : Text} (nonempty : segments ≠ [])
  (written : ofSegments segments = .ok path)

include written

theorem isPathText_of_ofSegments : IsPathText path := by
  obtain ⟨escaped, each, rfl⟩ := (ofSegments_eq_ok_iff segments path).mp written
  exact .slash each.isPathText

include nonempty

/-- The segments of a path are what stands between its slashes. -/
theorem segments_of_ofSegments : (path.tail.splitOn slash).mapM unescape? = some segments := by
  obtain ⟨escaped, each, rfl⟩ := (ofSegments_eq_ok_iff segments path).mp written
  rw [List.tail_cons, each.splitOn_joined nonempty, each.mapM_unescape?]

theorem count_slash_ofSegments : path.count slash = segments.length := by
  obtain ⟨escaped, each, rfl⟩ := (ofSegments_eq_ok_iff segments path).mp written
  rw [List.count_cons_self, ← Text.length_splitOn, each.splitOn_joined nonempty, each.length_eq]

end Written

/-- Segments have a path unless there is a lone surrogate in one of them.  It begins with a slash,
has one for each segment and holds no other delimiter and no blank; and what stands between its
slashes reads back as the segments, so that no other segments have this path. -/
theorem path_spells_segments (segments : List Text) (nonempty : segments ≠ []) :
    ((∃ fault, ofSegments segments = .error fault) ↔
      ∃ segment ∈ segments, ∃ c ∈ segment, c.isSurrogate = true) ∧
    ∀ path, ofSegments segments = .ok path →
      path.head? = some slash ∧ path.count slash = segments.length ∧
      IsPathText path ∧ (∀ c ∈ path, c ∉ text "?#:@" ∧ c.isBlank = false) ∧
      (path.tail.splitOn slash).mapM unescape? = some segments ∧
      ∀ others, others ≠ [] → ofSegments others = .ok path → others = segments := by
  refine ⟨ofSegments_isError_iff segments, ?_⟩
  intro path written
  have isPathText := isPathText_of_ofSegments written
  have readBack := segments_of_ofSegments nonempty written
  refine ⟨?_, count_slash_ofSegments nonempty written, isPathText, isPathText.not_delimiter,
    readBack, ?_⟩
  · obtain ⟨escaped, -, rfl⟩ := (ofSegments_eq_ok_iff segments path).mp written
    rfl
  · intro others alsoNonempty alsoWritten
    have alsoReadBack := segments_of_ofSegments alsoNonempty alsoWritten
    exact Option.some.inj (alsoReadBack.symm.trans readBack)

/-- Segments with delimiters, blanks and code points beyond ASCII. -/
def delimitedSegments : List Text := [text "a/b?", text "\u00e9 %41", text "x,*"]

def delimitedPath : Text := text "/a%2Fb%3F/%C3%A9%20%2541/x,*"

theorem delimited_path_spells_segments :
    delimitedSegments ≠ [] ∧ ofSegments delimitedSegments = .ok delimitedPath ∧
      IsPathText delimitedPath ∧ delimitedPath.count slash = 3 ∧
      (delimitedPath.tail.splitOn slash).mapM unescape? = some delimitedSegments ∧
      ∃ fault, ofSegments [text "a", [⟨0xD800, by decide⟩]] = .error fault := by
  have nonempty : delimitedSegments ≠ [] := by decide
  have written : ofSegments delimitedSegments = .ok delimitedPath := by decide +kernel
  obtain ⟨-, ofPath⟩ := path_spells_segments delimitedSegments nonempty
  obtain ⟨-, count, isPathText, -, readBack, -⟩ := ofPath delimitedPath written
  refine ⟨nonempty, written, isPathText, count, readBack, ?_⟩
  refine (path_spells_segments [text "a", [⟨0xD800, by decide⟩]] (List.cons_ne_nil _ _)).1.mpr ?_
  exact ⟨[⟨0xD800, by decide⟩], by decide, ⟨0xD800, by decide⟩, by decide, by decide⟩

end Path

end SearchShell
