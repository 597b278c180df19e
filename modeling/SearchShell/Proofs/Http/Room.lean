import SearchShell.Proofs.Http.Below
import SearchShell.Proofs.Text.Proper

/-!
# Room for addresses

An address and each of its parts can have only so many code points.  What is written from escaped
names leads to an address below a base exactly when it is short enough, alone and after the base,
provided that the base itself can be asked.
-/

set_option autoImplicit false

namespace SearchShell

namespace Url

/-! ## Quoting -/

theorem isSurrogate_of_isPlainBut {others : Text} {c : CodePoint}
    (plain : isPlainBut others c = true) : c.isSurrogate = false := by
  simp only [isPlainBut, Bool.and_eq_true, decide_eq_true_eq] at plain
  simp only [CodePoint.isSurrogate, Bool.and_eq_false_iff, decide_eq_false_iff_not]
  omega

theorem quote_singleton_isOk_iff (escaped : Text) (c : CodePoint) :
    (∃ image, quote escaped [c] = .ok image) ↔ c.isSurrogate = false := by
  by_cases plain : isPlainBut escaped c = true
  · exact ⟨fun _ => isSurrogate_of_isPlainBut plain, fun _ => ⟨_, quote_singleton_of_plain plain⟩⟩
  · have encoded : (∃ octets, Utf8.encode [c] = .ok octets) ↔ c.isSurrogate = false := by
      simp [Utf8.encode_eq_ok_iff]
    rw [← encoded]
    constructor
    · rintro ⟨image, quoted⟩
      simp only [quote, Outcome.map_eq_ok_iff, Outcome.mapM_eq_ok_iff,
        List.forall₂_cons_left_iff, plain, Bool.false_eq_true, if_false,
        Outcome.mapError_eq_ok_iff] at quoted
      obtain ⟨images, ⟨first, others, ⟨octets, isEncoded, -⟩, -⟩, -⟩ := quoted
      exact ⟨octets, isEncoded⟩
    · rintro ⟨octets, isEncoded⟩
      refine ⟨octets.flatMap Path.percent, ?_⟩
      simp [quote, plain, isEncoded, Except.map, Except.mapError, pure, Except.pure, bind,
        Except.bind]

/-- Exactly the texts without surrogates can be quoted. -/
theorem quote_isOk_iff (escaped : Text) : ∀ part : Text,
    (∃ out, quote escaped part = .ok out) ↔ part.IsProper := by
  intro part
  induction part with
  | nil => exact ⟨fun _ => Text.isProper_nil, fun _ => ⟨[], rfl⟩⟩
  | cons c rest ih =>
      rw [Text.isProper_cons_iff, ← quote_singleton_isOk_iff escaped c]
      constructor
      · rintro ⟨out, quoted⟩
        obtain ⟨image, tail, first, others, -⟩ := (quote_cons escaped c rest out).mp quoted
        exact ⟨⟨image, first⟩, ih.mp ⟨tail, others⟩⟩
      · rintro ⟨⟨image, first⟩, properRest⟩
        obtain ⟨tail, others⟩ := ih.mpr properRest
        exact ⟨_, (quote_cons escaped c rest _).mpr ⟨image, tail, first, others, rfl⟩⟩

/-! ## References -/

theorem unprintable?_eq_none {s : Text} (quoted : IsQuoted escapedInPath s) :
    unprintable? s = none := by
  have printable : ∀ c ∈ s, (0x20 ≤ c.val && c.val ≠ 0x7F : Bool) = true := by
    intro c member
    have plain := quoted c member
    simp only [isPlainBut, Bool.and_eq_true, decide_eq_true_eq] at plain
    simp only [Bool.and_eq_true, decide_eq_true_eq]
    omega
  simp only [unprintable?, List.takeWhile_eq_self_iff.mpr printable, List.getElem?_length,
    Option.map_none]

theorem checkPath_reference {parts : List Text} (isReference : IsReference parts) :
    checkPath false false (Path.slash :: Text.joined [Path.slash] parts) = .ok () := by
  have single := isReference.head_ne_slash
  have doubled : (text "//").isPrefixOf (Path.slash :: Text.joined [Path.slash] parts) = false := by
    rw [← Bool.not_eq_true, List.isPrefixOf_iff_prefix]
    rintro ⟨rest, split⟩
    have slashes : text "//" = [Path.slash, Path.slash] := by decide
    rw [slashes, List.cons_append, List.cons_append, List.cons.injEq] at split
    exact single (by rw [← split.2]; rfl)
  have colon : (text ":").isPrefixOf (Path.slash :: Text.joined [Path.slash] parts) = false := by
    rw [← Bool.not_eq_true, List.isPrefixOf_iff_prefix]
    rintro ⟨rest, split⟩
    exact absurd (List.cons.inj split).1 (by decide)
  simp [checkPath, doubled, colon]

theorem ofParts_path {parts : List Text} (isReference : IsReference parts) :
    ofParts ⟨[], [], Path.slash :: Text.joined [Path.slash] parts, none, none⟩ (.ofText []) =
      .ok ⟨[], [], [], none, Path.slash :: Text.joined [Path.slash] parts, none, none⟩ := by
  have nobody : Authority.ofText [] = ⟨[], [], []⟩ := by decide
  have userInfo : quote escapedInUserInfo [] = .ok [] := rfl
  have host : Host.normal [] = .ok [] := rfl
  have port : readPort [] [] = .ok none := rfl
  have query : quote? escapedInQuery none = .ok none := rfl
  have fragment : quote? escapedInFragment none = .ok none := rfl
  simp [ofParts, nobody, userInfo, host, port, query, fragment, checkPath_reference isReference,
    quote_of_isQuoted isReference.quoted_path, bind, Except.bind, Text.toAsciiLower]

/-- A path of escaped names can be read exactly when it is not too long. -/
theorem read_isOk_iff {parts : List Text} (isReference : IsReference parts) :
    (∃ reference, read (Path.slash :: Text.joined [Path.slash] parts) = .ok reference) ↔
      (Path.slash :: Text.joined [Path.slash] parts).length ≤ lengthLimit := by
  have whole := ofParts_path isReference
  unfold read
  split
  next long =>
    refine iff_of_false ?_ (Nat.not_le_of_lt long)
    rintro ⟨reference, isRead⟩
    cases isRead
  next short =>
    rw [unprintable?_eq_none isReference.quoted_path]
    simp only [UrlParts.ofText_path isReference.head_ne_slash isReference.apart_path, whole]
    exact iff_of_true ⟨_, rfl⟩ (Nat.le_of_not_lt short)

/-! ## Below a base -/

/-- The parts of a base after which a text comes, which continues the query if there is one. -/
def extendedParts (base : Url) (tail : Text) : UrlParts :=
  match base.query with
  | none => { base.parts with path := base.rootedPath ++ tail }
  | some query => { base.parts with path := base.rootedPath, query := some (query ++ tail) }

def HasRoomFor (base : Url) (tail : Text) : Prop :=
  match base.query with
  | none => (base.rootedPath ++ tail).length ≤ lengthLimit
  | some query => (query ++ tail).length ≤ lengthLimit

theorem withTarget_extended {base : Url} (isBase : IsBase base) {tail : Text}
    (quoted : IsQuoted escapedInPath tail) :
    base.withTarget (base.target ++ tail) =
      reread (base.extendedParts tail) (.ofText base.authority) := by
  have rooted := isBase.settled.rootedPath
  cases query : base.query with
  | none =>
      have apart : ∀ c ∈ base.rootedPath ++ tail, (text "?").contains c = false := by
        refine noMark_of_isQuoted ?_
        intro c member
        exact (List.mem_append.mp member).elim (rooted.quoted c) (quoted c)
      rw [target_of_query_none query, withTarget]
      simp only [UrlParts.splitBefore_of_apart apart, extendedParts, query]
      simp [parts, query]
  | some given =>
      have isMark : (text "?").contains (CodePoint.ofChar '?') = true := by decide
      have cut := UrlParts.splitBefore_of_mark (noMark_of_isQuoted rooted.quoted) isMark
        (given ++ tail)
      rw [target_of_query_some query, withTarget, List.append_assoc, List.cons_append]
      simp only [cut, extendedParts, query]
      simp

theorem tooLong?_eq_none_iff (limit : Nat) (parts : UrlParts) :
    parts.tooLong? limit = none ↔
      parts.scheme.length ≤ limit ∧ parts.authority.length ≤ limit ∧ parts.path.length ≤ limit ∧
        (parts.query.getD []).length ≤ limit ∧ (parts.fragment.getD []).length ≤ limit := by
  simp [UrlParts.tooLong?, List.find?_eq_none]

theorem checkPath_append {hasAuthority : Bool} {path : Text} (nonempty : path ≠ [])
    (checked : checkPath true hasAuthority path = .ok ()) (more : Text) :
    checkPath true hasAuthority (path ++ more) = .ok () := by
  cases hasAuthority with
  | false => rfl
  | true =>
      have rooted : (text "/").isPrefixOf path = true := by
        by_contra unrooted
        simp [checkPath, nonempty, unrooted] at checked
      have stays : (text "/").isPrefixOf (path ++ more) = true := by
        rw [List.isPrefixOf_iff_prefix] at rooted ⊢
        exact rooted.trans (List.prefix_append _ _)
      simp [checkPath, stays]

/-- What follows the path and the query keeps an address acceptable. -/
theorem ofParts_isOk_of_longer {first second : UrlParts} {authority : Authority} {url : Url}
    (ok : ofParts first authority = .ok url) (schemed : first.scheme ≠ [])
    (scheme : second.scheme = first.scheme) (fragment : second.fragment = first.fragment)
    (nonempty : first.path ≠ []) (longer : first.path <+: second.path)
    (quoted : IsQuoted escapedInPath second.path)
    (proper : ∀ query ∈ second.query, query.IsProper) :
    ∃ other, ofParts second authority = .ok other := by
  simp only [ofParts, Outcome.bind_eq_ok_iff] at ok
  obtain ⟨userInfo, userInfoOk, host, hostOk, port, portOk, _, checked, -, -, -, -, quotedFragment,
    fragmentOk, -⟩ := ok
  obtain ⟨more, extended⟩ := longer
  have isScheme : (!first.scheme.isEmpty) = true := by simpa using schemed
  have checkedMore : checkPath true (!userInfo.isEmpty || !host.isEmpty || port.isSome)
      second.path = .ok () := by
    rw [isScheme] at checked
    rw [← extended]
    exact checkPath_append nonempty checked more
  have stays : quote escapedInPath (Path.resolveDots second.path) =
      .ok (Path.resolveDots second.path) := by
    refine quote_of_isQuoted ?_
    intro c member
    rcases Path.mem_resolveDots member with rfl | inside
    · exact slash_isPlain
    · exact quoted c inside
  obtain ⟨query, queryOk⟩ : ∃ query, quote? escapedInQuery second.query = .ok query := by
    cases given : second.query with
    | none => exact ⟨none, rfl⟩
    | some query =>
        obtain ⟨out, isQuoted⟩ := (quote_isOk_iff escapedInQuery query).mpr (proper query given)
        exact ⟨some out, by rw [quote?, isQuoted]; rfl⟩
  refine ⟨⟨second.scheme.toAsciiLower, userInfo, host, port, Path.resolveDots second.path, query,
    quotedFragment⟩, ?_⟩
  simp only [ofParts, scheme, fragment, isScheme, Bool.true_or, if_true, Outcome.bind_eq_ok_iff]
  exact ⟨userInfo, userInfoOk, host, hostOk, port, portOk, (), checkedMore, _, stays, query,
    queryOk, quotedFragment, fragmentOk, rfl⟩

theorem isProper_of_isQuoted {escaped s : Text} (quoted : IsQuoted escaped s) : s.IsProper :=
  fun c member => isSurrogate_of_isPlainBut (quoted c member)

section Room

variable {base root : Url} {tail : Text}

/-- If a base is short enough itself, what comes after it decides. -/
theorem tooLong?_extendedParts_iff
    (short : (base.extendedParts []).tooLong? lengthLimit = none) :
    (base.extendedParts tail).tooLong? lengthLimit = none ↔ HasRoomFor base tail := by
  rw [tooLong?_eq_none_iff] at short ⊢
  unfold extendedParts HasRoomFor at *
  cases query : base.query with
  | none =>
      simp only [query] at short ⊢
      obtain ⟨scheme, authority, -, given, fragment⟩ := short
      exact ⟨fun all => all.2.2.1, fun path => ⟨scheme, authority, path, given, fragment⟩⟩
  | some written =>
      simp only [query] at short ⊢
      obtain ⟨scheme, authority, path, -, fragment⟩ := short
      exact ⟨fun all => all.2.2.2.1, fun given => ⟨scheme, authority, path, given, fragment⟩⟩

theorem rootedPath_ne_nil (url : Url) : url.rootedPath ≠ [] := by
  unfold rootedPath
  split
  · decide
  next named => simpa using named

theorem ofParts_extendedParts_isOk (isBase : IsBase base)
    (asked : ofParts (base.extendedParts []) (.ofText base.authority) = .ok root)
    (quoted : IsQuoted escapedInPath tail) :
    ∃ url, ofParts (base.extendedParts tail) (.ofText base.authority) = .ok url := by
  have rooted := isBase.settled.rootedPath.quoted
  have form := NormalForm.of_ofParts asked
  unfold extendedParts at *
  cases query : base.query with
  | none =>
      simp only [query, List.append_nil] at asked ⊢
      refine ofParts_isOk_of_longer asked isBase.schemed rfl rfl (rootedPath_ne_nil base)
        (List.prefix_append _ _) ?_ ?_
      · intro c member
        exact (List.mem_append.mp member).elim (rooted c) (quoted c)
      · intro given isGiven
        simp [parts, query] at isGiven
  | some written =>
      simp only [query, List.append_nil] at asked form ⊢
      refine ofParts_isOk_of_longer asked isBase.schemed rfl rfl (rootedPath_ne_nil base)
        (List.prefix_refl _) rooted ?_
      have isQuoted := form.query
      obtain ⟨out, isWritten, -⟩ := (Outcome.map_eq_ok_iff _ _ _).mp isQuoted
      have proper := (quote_isOk_iff escapedInQuery written).mp ⟨out, isWritten⟩
      rintro given isGiven c member
      cases isGiven
      exact (List.mem_append.mp member).elim (proper c) (isProper_of_isQuoted quoted c)

/-- After a base that can be asked itself there is an address exactly if there is room. -/
theorem withTarget_isOk_iff (isBase : IsBase base) (asked : base.withTarget base.target = .ok root)
    (quoted : IsQuoted escapedInPath tail) :
    (∃ url, base.withTarget (base.target ++ tail) = .ok url) ↔ HasRoomFor base tail := by
  have first : reread (base.extendedParts []) (.ofText base.authority) = .ok root := by
    rw [← withTarget_extended isBase (by simp [IsQuoted]), List.append_nil]
    exact asked
  rw [withTarget_extended isBase quoted]
  unfold reread at first ⊢
  split at first
  next => cases first
  next short =>
    have room_iff := @tooLong?_extendedParts_iff base tail short
    split
    next part long =>
      rw [long] at room_iff
      refine iff_of_false ?_ ?_
      · rintro ⟨url, isUrl⟩
        cases isUrl
      · intro room
        cases room_iff.mpr room
    next fits =>
      exact iff_of_true (ofParts_extendedParts_isOk isBase first quoted) (room_iff.mp fits)

end Room

end Url

end SearchShell
