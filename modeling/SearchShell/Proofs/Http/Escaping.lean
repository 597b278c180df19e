import SearchShell.Proofs.Http.DotSegments
import SearchShell.Proofs.Outcome
import SearchShell.Proofs.Text.Spelling

/-!
# Escaped segments

An escaped segment reads back as the segment and holds only code points that stand
for themselves in an address, so none of them is a delimiter.  Two different
segments are never escaped alike.
-/

set_option autoImplicit false

namespace SearchShell

namespace Path

def isSafe (c : CodePoint) : Bool :=
  c.isAsciiLetter || c.isAsciiDigit || (text "_.-~,*%").contains c

theorem val_lt_of_isSafe {c : CodePoint} (safe : isSafe c = true) : c.val < 0x80 := by
  have marks : ∀ d ∈ text "_.-~,*%", d.val < 0x80 := by decide
  simp only [isSafe, CodePoint.isAsciiLetter, CodePoint.isAsciiUpper,
    CodePoint.isAsciiLower, CodePoint.isAsciiDigit, Bool.or_eq_true, Bool.and_eq_true,
    decide_eq_true_eq, List.contains_iff_mem] at safe
  rcases safe with (letter | digit) | mark
  · omega
  · omega
  · exact marks c mark

/-- What is true of the safe code points can be found out by looking at each. -/
theorem forall_isSafe {p : CodePoint → Prop}
    (table : ∀ n : Fin 0x80, isSafe ⟨n.val, by omega⟩ = true → p ⟨n.val, by omega⟩)
    {c : CodePoint} (safe : isSafe c = true) : p c :=
  table ⟨c.val, val_lt_of_isSafe safe⟩ safe

/-! ## One octet -/

/-- What is true of every octet can be found out by looking at each. -/
theorem forall_octet {p : UInt8 → Prop} (table : ∀ n : Fin 256, p (UInt8.ofNat n.val))
    (octet : UInt8) : p octet := by
  have holds := table ⟨octet.toNat, octet.toNat_lt⟩
  rwa [UInt8.ofNat_toNat] at holds

theorem all_isSafe_escapeOctet (octet : UInt8) : ∀ c ∈ escapeOctet octet, isSafe c = true :=
  forall_octet (p := fun octet => ∀ c ∈ escapeOctet octet, isSafe c = true)
    (by decide +kernel) octet

theorem hexNumber?_octet (octet : UInt8) :
    Text.hexNumber? [CodePoint.ofUpperHexValue (octet.toNat / 16),
      CodePoint.ofUpperHexValue (octet.toNat % 16)] = some octet.toNat := by
  have digit : ∀ n : Fin 16, (CodePoint.ofUpperHexValue n.val).hexValue? = some n.val := by
    decide
  have bound := octet.toNat_lt
  have high := digit ⟨octet.toNat / 16, by omega⟩
  have low := digit ⟨octet.toNat % 16, by omega⟩
  simp only at high low
  simp only [Text.hexNumber?, List.foldlM_cons, List.foldlM_nil, high, low, Option.map_some,
    Option.bind_eq_bind, Option.bind_some, Option.pure_def, Option.some.injEq]
  omega

theorem val_ofChar_ofNat {n : Nat} (small : n < 0x80) :
    (CodePoint.ofChar (Char.ofNat n)).val = n := by
  have valid : n.isValidChar := Or.inl (by omega)
  rw [CodePoint.ofChar, Char.ofNat, dif_pos valid]
  rfl

theorem isPlain_toNat (octet : UInt8) (plain : isPlain octet = true) :
    octet.toNat < 0x80 ∧ octet.toNat ≠ 0x25 := by
  simp only [isPlain, Bool.or_eq_true, Bool.and_eq_true, decide_eq_true_eq] at plain
  omega

theorem unescapeOctets?_cons_of_ne (c : CodePoint) (rest : Text)
    (ne : c ≠ CodePoint.ofChar '%') (small : c.val < 0x80) :
    unescapeOctets? (c :: rest) = (unescapeOctets? rest).map (UInt8.ofNat c.val :: ·) := by
  rw [unescapeOctets?.eq_def]
  simp only [ne, small, if_true, if_false]

theorem unescapeOctets?_escapeOctet (octet : UInt8) (rest : Text) :
    unescapeOctets? (escapeOctet octet ++ rest) =
      (unescapeOctets? rest).map (octet :: ·) := by
  by_cases plain : isPlain octet = true
  · obtain ⟨small, notPercent⟩ := isPlain_toNat octet plain
    have val := val_ofChar_ofNat small
    have ne : CodePoint.ofChar (Char.ofNat octet.toNat) ≠ CodePoint.ofChar '%' := by
      intro eq
      have := congrArg CodePoint.val eq
      rw [val] at this
      exact notPercent this
    rw [escapeOctet, if_pos plain, List.singleton_append,
      unescapeOctets?_cons_of_ne _ _ ne (by omega), val, UInt8.ofNat_toNat]
  · rw [escapeOctet, if_neg plain, percent]
    simp only [List.cons_append, List.nil_append, unescapeOctets?, if_true, hexNumber?_octet,
      Option.bind_eq_bind, Option.bind_some, UInt8.ofNat_toNat]

theorem unescapeOctets?_flatMap : ∀ octets : Octets,
    unescapeOctets? (octets.flatMap escapeOctet) = some octets := by
  intro octets
  induction octets with
  | nil => rfl
  | cons octet rest ih =>
      rw [List.flatMap_cons, unescapeOctets?_escapeOctet, ih]
      rfl

/-! ## One segment -/

theorem escape_eq_ok_iff (segment escaped : Text) :
    escape segment = .ok escaped ↔
      escaped = (Utf8.spell segment).flatMap escapeOctet ∧
        ∀ c ∈ segment, c.isSurrogate = false := by
  rw [escape, Outcome.map_eq_ok_iff]
  constructor
  · rintro ⟨octets, encoded, rfl⟩
    obtain ⟨rfl, proper⟩ := (Utf8.encode_eq_ok_iff segment octets).mp encoded
    exact ⟨rfl, proper⟩
  · rintro ⟨rfl, proper⟩
    exact ⟨_, (Utf8.encode_eq_ok_iff segment _).mpr ⟨rfl, proper⟩, rfl⟩

/-- Reading back an escaped segment gives the segment. -/
theorem unescape?_of_escape {segment escaped : Text} (ok : escape segment = .ok escaped) :
    unescape? escaped = some segment := by
  obtain ⟨rfl, proper⟩ := (escape_eq_ok_iff segment escaped).mp ok
  rw [unescape?, unescapeOctets?_flatMap, Option.bind_some, Utf8.decode?_spell segment proper]

theorem isSafe_of_escape {segment escaped : Text} (ok : escape segment = .ok escaped) :
    ∀ c ∈ escaped, isSafe c = true := by
  obtain ⟨rfl, -⟩ := (escape_eq_ok_iff segment escaped).mp ok
  intro c member
  obtain ⟨octet, -, inOctet⟩ := List.mem_flatMap.mp member
  exact all_isSafe_escapeOctet octet c inOctet

theorem escape_injective {first second escaped : Text}
    (okFirst : escape first = .ok escaped) (okSecond : escape second = .ok escaped) :
    first = second :=
  Option.some.inj ((unescape?_of_escape okFirst).symm.trans (unescape?_of_escape okSecond))

/-- Escaping neither makes a dot segment nor hides one. -/
theorem isDotSegment_escape {segment escaped : Text} (ok : escape segment = .ok escaped) :
    IsDotSegment escaped ↔ IsDotSegment segment := by
  have oneDot : escape (text ".") = .ok (text ".") := by decide
  have twoDots : escape (text "..") = .ok (text "..") := by decide
  constructor
  · rintro (rfl | rfl)
    · exact Or.inl (escape_injective ok oneDot)
    · exact Or.inr (escape_injective ok twoDots)
  · rintro (rfl | rfl)
    · rw [oneDot] at ok
      exact Or.inl (Except.ok.inj ok).symm
    · rw [twoDots] at ok
      exact Or.inr (Except.ok.inj ok).symm

theorem escape_ne_nil {segment escaped : Text} (nonempty : segment ≠ [])
    (ok : escape segment = .ok escaped) : escaped ≠ [] := by
  rintro rfl
  exact nonempty (escape_injective ok rfl)

theorem escapeOctet_ne_nil (octet : UInt8) : escapeOctet octet ≠ [] := by
  unfold escapeOctet
  split
  · exact List.cons_ne_nil _ _
  · exact List.cons_ne_nil _ _

/-- Escaping makes no segment shorter. -/
theorem length_le_escape {segment escaped : Text} (ok : escape segment = .ok escaped) :
    segment.length ≤ escaped.length := by
  obtain ⟨rfl, -⟩ := (escape_eq_ok_iff segment escaped).mp ok
  exact Nat.le_trans (Text.length_le_flatMap Utf8.encodePoint_ne_nil segment)
    (Text.length_le_flatMap escapeOctet_ne_nil _)

/-! ## Lists of segments -/

def Escapes (segments escaped : List Text) : Prop :=
  List.Forall₂ (fun segment text => escape segment = .ok text) segments escaped

theorem Escapes.mapM_unescape? {segments escaped : List Text} (each : Escapes segments escaped) :
    escaped.mapM unescape? = some segments := by
  induction each with
  | nil => rfl
  | cons head tail ih =>
      rw [List.mapM_cons, unescape?_of_escape head, ih]
      rfl

theorem Escapes.isSafe {segments escaped : List Text} (each : Escapes segments escaped) :
    ∀ part ∈ escaped, ∀ c ∈ part, Path.isSafe c = true := by
  induction each with
  | nil => simp
  | cons head tail ih =>
      intro part member
      rcases List.mem_cons.mp member with rfl | later
      · exact isSafe_of_escape head
      · exact ih part later

theorem Escapes.length_eq {segments escaped : List Text} (each : Escapes segments escaped) :
    segments.length = escaped.length :=
  List.Forall₂.length_eq each

theorem Escapes.isDotSegment {segments escaped : List Text} (each : Escapes segments escaped) :
    (∃ part ∈ escaped, IsDotSegment part) ↔ ∃ segment ∈ segments, IsDotSegment segment := by
  induction each with
  | nil => simp
  | cons head tail ih =>
      simp only [List.mem_cons, exists_eq_or_imp, isDotSegment_escape head, ih]

theorem Escapes.ne_nil {segments escaped : List Text} (each : Escapes segments escaped)
    (named : ∀ segment ∈ segments, segment ≠ []) : ∀ part ∈ escaped, part ≠ [] := by
  induction each with
  | nil => simp
  | cons head tail ih =>
      intro part member
      rcases List.mem_cons.mp member with rfl | later
      · exact escape_ne_nil (named _ (by simp)) head
      · exact ih (fun segment inTail => named segment (by simp [inTail])) part later

theorem Escapes.length_le {segments escaped : List Text} (each : Escapes segments escaped)
    {segment : Text} (member : segment ∈ segments) :
    ∃ part ∈ escaped, segment.length ≤ part.length := by
  induction each with
  | nil => cases member
  | cons head tail ih =>
      rcases List.mem_cons.mp member with rfl | later
      · exact ⟨_, List.mem_cons_self, length_le_escape head⟩
      · obtain ⟨part, isPart, longer⟩ := ih later
        exact ⟨part, List.mem_cons_of_mem _ isPart, longer⟩

/-- A last segment that stands for itself comes last. -/
theorem Escapes.concat {last : Text} (same : escape last = .ok last) :
    ∀ {before escaped : List Text}, Escapes (before ++ [last]) escaped →
      ∃ first, escaped = first ++ [last] := by
  intro before
  induction before with
  | nil =>
      intro escaped each
      obtain ⟨image, rest, written, none, rfl⟩ := List.forall₂_cons_left_iff.mp each
      cases List.forall₂_nil_left_iff.mp none
      exact ⟨[], by rw [Except.ok.inj (written.symm.trans same), List.nil_append]⟩
  | cons segment rest ih =>
      intro escaped each
      obtain ⟨image, images, -, others, rfl⟩ := List.forall₂_cons_left_iff.mp each
      obtain ⟨first, rfl⟩ := ih others
      exact ⟨image :: first, rfl⟩

theorem ofSegments_eq_ok_iff (segments : List Text) (path : Text) :
    ofSegments segments = .ok path ↔
      ∃ escaped, Escapes segments escaped ∧
        path = slash :: Text.joined [slash] escaped := by
  rw [ofSegments, Outcome.map_eq_ok_iff, ← text_slash]
  constructor
  · rintro ⟨escaped, mapped, rfl⟩
    exact ⟨escaped, (Outcome.mapM_eq_ok_iff escape segments escaped).mp mapped, rfl⟩
  · rintro ⟨escaped, each, rfl⟩
    exact ⟨escaped, (Outcome.mapM_eq_ok_iff escape segments escaped).mpr each, rfl⟩

/-- A path is longer than each segment that it leads through. -/
theorem length_lt_ofSegments {segments : List Text} {path segment : Text}
    (written : ofSegments segments = .ok path) (member : segment ∈ segments) :
    segment.length < path.length := by
  obtain ⟨escaped, each, rfl⟩ := (ofSegments_eq_ok_iff segments path).mp written
  obtain ⟨part, isPart, longer⟩ := each.length_le member
  have := Text.length_le_joined [slash] isPart
  rw [List.length_cons]
  omega

end Path

end SearchShell
