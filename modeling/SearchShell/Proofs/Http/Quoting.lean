import SearchShell.Http.Url
import SearchShell.Proofs.Http.Escaping

/-!
# Quoted parts of addresses

Quoting leaves what is plain as it is and makes everything else plain.  It keeps the
slashes of a path where they are and makes no dot segment.
-/

set_option autoImplicit false

namespace SearchShell

namespace Url

def IsQuoted (escaped part : Text) : Prop := ∀ c ∈ part, isPlainBut escaped c = true

theorem quote_cons (escaped : Text) (c : CodePoint) (rest out : Text) :
    quote escaped (c :: rest) = .ok out ↔
      ∃ image tail, quote escaped [c] = .ok image ∧ quote escaped rest = .ok tail ∧
        out = image ++ tail := by
  simp only [quote, Outcome.map_eq_ok_iff, Outcome.mapM_eq_ok_iff, List.forall₂_cons_left_iff,
    List.forall₂_nil_left_iff]
  constructor
  · rintro ⟨images, ⟨image, others, done, each, rfl⟩, rfl⟩
    exact ⟨image, others.flatten, ⟨[image], ⟨image, [], done, rfl, rfl⟩, by simp⟩,
      ⟨others, each, rfl⟩, by simp⟩
  · rintro ⟨image, tail, ⟨images, ⟨first, others, done, rfl, rfl⟩, rfl⟩, ⟨rest, each, rfl⟩, rfl⟩
    exact ⟨first :: rest, ⟨first, rest, done, each, rfl⟩, by simp⟩

theorem quote_singleton_of_plain {escaped : Text} {c : CodePoint}
    (plain : isPlainBut escaped c = true) : quote escaped [c] = .ok [c] := by
  simp [quote, plain, Except.map, pure, Except.pure, bind, Except.bind]

/-- What is not plain is written as octets, of which there is at least one. -/
theorem quote_singleton_of_not_plain {escaped image : Text} {c : CodePoint}
    (quoted : quote escaped [c] = .ok image) (notPlain : ¬isPlainBut escaped c = true) :
    ∃ (octet : UInt8) (octets : Octets),
      image = Path.percent octet ++ octets.flatMap Path.percent := by
  simp only [quote, Outcome.map_eq_ok_iff, Outcome.mapM_eq_ok_iff, List.forall₂_cons_left_iff,
    List.forall₂_nil_left_iff, notPlain, Bool.false_eq_true, if_false,
    Outcome.mapError_eq_ok_iff] at quoted
  obtain ⟨images, ⟨first, others, ⟨octets, encoded, rfl⟩, rfl, rfl⟩, rfl⟩ := quoted
  obtain ⟨rfl, proper⟩ := (Utf8.encode_eq_ok_iff [c] octets).mp encoded
  obtain ⟨octet, more, spelled, -⟩ := Utf8.pieceFrom_encodePoint c (proper c (by simp)) []
  exact ⟨octet, more, by simp [Utf8.spell, spelled]⟩

theorem quote_of_isQuoted {escaped : Text} : ∀ {part : Text},
    IsQuoted escaped part → quote escaped part = .ok part := by
  intro part
  induction part with
  | nil => intro _; rfl
  | cons c rest ih =>
      intro plain
      exact (quote_cons escaped c rest _).mpr ⟨[c], rest,
        quote_singleton_of_plain (plain c (by simp)),
        ih (fun d member => plain d (by simp [member])), rfl⟩

/-! ## Quoted paths -/

theorem percent_isPlain (octet : UInt8) :
    ∀ c ∈ Path.percent octet, isPlainBut escapedInPath c = true ∧ c ≠ Path.slash :=
  Path.forall_octet (p := fun octet => ∀ c ∈ Path.percent octet,
    isPlainBut escapedInPath c = true ∧ c ≠ Path.slash) (by decide +kernel) octet

theorem slash_isPlain : isPlainBut escapedInPath Path.slash = true := by decide

theorem isSafe_isPlain {c : CodePoint} (safe : Path.isSafe c = true) :
    isPlainBut escapedInPath c = true ∧ c ≠ Path.slash :=
  Path.forall_isSafe (p := fun c => isPlainBut escapedInPath c = true ∧ c ≠ Path.slash)
    (by decide +kernel) safe

/-- The image of one code point is plain, and it holds a slash only for a slash. -/
theorem quote_singleton_image {image : Text} {c : CodePoint}
    (quoted : quote escapedInPath [c] = .ok image) :
    IsQuoted escapedInPath image ∧ (c ≠ Path.slash → Path.slash ∉ image) := by
  by_cases plain : isPlainBut escapedInPath c = true
  · rw [quote_singleton_of_plain plain] at quoted
    cases quoted
    refine ⟨by simpa [IsQuoted] using plain, ?_⟩
    intro ne
    simpa using Ne.symm ne
  · obtain ⟨octet, octets, rfl⟩ := quote_singleton_of_not_plain quoted plain
    have marks : ∀ d ∈ Path.percent octet ++ octets.flatMap Path.percent,
        isPlainBut escapedInPath d = true ∧ d ≠ Path.slash := by
      intro d member
      rcases List.mem_append.mp member with first | later
      · exact percent_isPlain octet d first
      · obtain ⟨other, -, inOther⟩ := List.mem_flatMap.mp later
        exact percent_isPlain other d inOther
    exact ⟨fun d member => (marks d member).1, fun _ inside => (marks _ inside).2 rfl⟩

theorem isQuoted_of_quote : ∀ {part out : Text},
    quote escapedInPath part = .ok out → IsQuoted escapedInPath out := by
  intro part
  induction part with
  | nil =>
      intro out quoted
      cases quoted
      simp [IsQuoted]
  | cons c rest ih =>
      intro out quoted
      obtain ⟨image, tail, head, later, rfl⟩ := (quote_cons escapedInPath c rest out).mp quoted
      intro d member
      rcases List.mem_append.mp member with inImage | inTail
      · exact (quote_singleton_image head).1 d inImage
      · exact ih later d inTail

/-- The parts between the slashes of a path are quoted one by one. -/
theorem quote_splitOn : ∀ {path out : Text}, quote escapedInPath path = .ok out →
    List.Forall₂ (fun part image => quote escapedInPath part = .ok image)
      (path.splitOn Path.slash) (out.splitOn Path.slash) := by
  intro path
  induction path with
  | nil =>
      intro out quoted
      cases quoted
      exact .cons rfl .nil
  | cons c rest ih =>
      intro out quoted
      obtain ⟨image, tail, head, later, rfl⟩ := (quote_cons escapedInPath c rest out).mp quoted
      have each := ih later
      by_cases isSlash : c = Path.slash
      · subst isSlash
        rw [quote_singleton_of_plain slash_isPlain] at head
        cases head
        rw [List.singleton_append, List.splitOn_cons_eq_if_modifyHead,
          List.splitOn_cons_eq_if_modifyHead, beq_self_eq_true, if_pos rfl, if_pos rfl]
        exact .cons rfl each
      · have apart := (quote_singleton_image head).2 isSlash
        rw [Text.splitOn_append_of_not_mem apart tail, List.splitOn_cons_eq_if_modifyHead,
          beq_eq_false_iff_ne.mpr isSlash]
        obtain ⟨part, parts, split⟩ :=
          List.exists_cons_of_ne_nil (List.splitOn_ne_nil Path.slash rest)
        rw [split] at each ⊢
        obtain ⟨quotedPart, images, first, others, imagesEq⟩ :=
          List.forall₂_cons_left_iff.mp each
        rw [imagesEq]
        exact .cons ((quote_cons escapedInPath c part _).mpr
          ⟨image, quotedPart, head, first, rfl⟩) others

theorem quote_eq_self {escaped : Text} : ∀ {part out : Text},
    quote escaped part = .ok out → CodePoint.ofChar '%' ∉ out → part = out := by
  intro part
  induction part with
  | nil =>
      intro out quoted _
      cases quoted
      rfl
  | cons c rest ih =>
      intro out quoted noPercent
      obtain ⟨image, tail, head, later, rfl⟩ := (quote_cons escaped c rest out).mp quoted
      have restEq := ih later (fun inside => noPercent (by simp [inside]))
      by_cases plain : isPlainBut escaped c = true
      · rw [quote_singleton_of_plain plain] at head
        cases head
        rw [restEq]
        rfl
      · obtain ⟨octet, octets, rfl⟩ := quote_singleton_of_not_plain head plain
        exact absurd (by simp [Path.percent]) noPercent

theorem not_isDotSegment_quote {part out : Text} (quoted : quote escapedInPath part = .ok out)
    (undotted : ¬Path.IsDotSegment part) : ¬Path.IsDotSegment out := by
  have noPercent (dotted : Path.IsDotSegment out) : CodePoint.ofChar '%' ∉ out := by
    rcases dotted with rfl | rfl <;> decide
  intro dotted
  rw [quote_eq_self quoted (noPercent dotted)] at undotted
  exact undotted dotted

theorem undotted_quote {path out : Text} (quoted : quote escapedInPath path = .ok out)
    (undotted : ∀ part ∈ path.splitOn Path.slash, ¬Path.IsDotSegment part) :
    ∀ part ∈ out.splitOn Path.slash, ¬Path.IsDotSegment part := by
  have each := quote_splitOn quoted
  generalize path.splitOn Path.slash = parts at each undotted
  generalize out.splitOn Path.slash = images at each
  induction each with
  | nil => simp
  | cons head tail ih =>
      intro image member
      rcases List.mem_cons.mp member with rfl | later
      · exact not_isDotSegment_quote head (undotted _ (by simp))
      · exact ih (fun part inTail => undotted part (by simp [inTail])) image later

end Url

end SearchShell
