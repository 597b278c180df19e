import SearchShell.Text.Utf8

/-!
# Reading back what UTF-8 spells

The octets of a text without surrogates are cut into exactly its code points, so
strict decoding gives the text again.  A text that could be encoded has no
surrogates.
-/

set_option autoImplicit false

namespace SearchShell

/-! ## What an encoding refuses -/

theorem Unencodable.find?_eq_none_iff (target : TextTarget) :
    ∀ (s : Text) (start : Nat),
      find? target start s = none ↔ ∀ c ∈ s, target.refuses c = false := by
  intro s
  induction s with
  | nil => intro start; simp [find?]
  | cons c rest ih =>
      intro start
      by_cases refused : target.refuses c = true
      · simp [find?, refused]
      · rw [Bool.not_eq_true] at refused
        simp [find?, refused, ih (start + 1)]

namespace Utf8

theorem encode_eq_ok_iff (s : Text) (octets : Octets) :
    encode s = .ok octets ↔ octets = spell s ∧ ∀ c ∈ s, c.isSurrogate = false := by
  have refuses (c : CodePoint) : TextTarget.utf8.refuses c = c.isSurrogate := by
    simp [TextTarget.refuses, TextTarget.lacks]
  have none_iff := Unencodable.find?_eq_none_iff .utf8 s 0
  simp only [refuses] at none_iff
  unfold encode
  cases found : Unencodable.find? .utf8 0 s with
  | none =>
      have proper := none_iff.mp found
      constructor
      · intro encoded
        cases encoded
        exact ⟨rfl, proper⟩
      · rintro ⟨rfl, -⟩
        rfl
  | some fault =>
      constructor
      · intro encoded
        cases encoded
      · rintro ⟨-, proper⟩
        rw [none_iff.mpr proper] at found
        cases found

/-! ## One code point -/

theorem encodePoint_ne_nil (c : CodePoint) : encodePoint c ≠ [] := by
  unfold encodePoint
  repeat' split
  all_goals exact List.cons_ne_nil _ _

theorem continuation_cons (value : Nat) (taken : Octets) (missing low high : Nat)
    (octet : UInt8) (rest : Octets)
    (atLeast : low ≤ octet.toNat) (atMost : octet.toNat ≤ high) :
    continuation value taken (missing + 1) low high (octet :: rest) =
      continuation (value * 0x40 + octet.toNat % 0x40) (taken ++ [octet]) missing 0x80 0xBF
        rest := by
  simp [continuation, atLeast, atMost]

theorem continuation_zero (value : Nat) (taken : Octets) (low high : Nat) (rest : Octets)
    (c : CodePoint) (valueEq : value = c.val) :
    continuation value taken 0 low high rest = (.point c, rest) := by
  subst valueEq
  simp [continuation, CodePoint.ofNat?, c.val_lt]

/-- What follows the first octet: the second has bounds that depend on the first. -/
structure Continues (low high : Nat) (second : UInt8) (later : Octets) : Prop where
  atLeast : low ≤ second.toNat
  atMost : second.toNat ≤ high
  later : ∀ octet ∈ later, 0x80 ≤ octet.toNat ∧ octet.toNat ≤ 0xBF

def gather (value : Nat) (octet : UInt8) : Nat := value * 0x40 + octet.toNat % 0x40

theorem continuation_of_continues (c : CodePoint) (rest : Octets) : ∀ (later : Octets)
    (value low high : Nat) (taken : Octets) (second : UInt8),
    Continues low high second later → (second :: later).foldl gather value = c.val →
      continuation value taken (later.length + 1) low high (second :: (later ++ rest)) =
        (.point c, rest) := by
  intro later
  induction later with
  | nil =>
      intro value low high taken second continues gathered
      rw [List.length_nil, continuation_cons _ _ _ _ _ _ _ continues.atLeast continues.atMost]
      exact continuation_zero _ _ _ _ _ c gathered
  | cons third later ih =>
      intro value low high taken second continues gathered
      obtain ⟨atLeast, atMost⟩ := continues.later third (by simp)
      rw [List.length_cons, List.cons_append,
        continuation_cons _ _ _ _ _ _ _ continues.atLeast continues.atMost]
      exact ih _ _ _ _ third
        ⟨atLeast, atMost, fun octet member => continues.later octet (by simp [member])⟩ gathered

theorem toNat_ofNat_of_lt {n : Nat} (small : n < 256) : (UInt8.ofNat n).toNat = n := by
  rw [UInt8.toNat_ofNat']
  exact Nat.mod_eq_of_lt small

section Points

variable {c : CodePoint} {rest : Octets}

theorem pieceFrom_two (atLeast : 0x80 ≤ c.val) (below : c.val < 0x800) :
    pieceFrom false (UInt8.ofNat (0xC0 + c.val / 0x40))
      (UInt8.ofNat (0x80 + c.val % 0x40) :: rest) = (.point c, rest) := by
  have lead := toNat_ofNat_of_lt (show 0xC0 + c.val / 0x40 < 256 by omega)
  have second := toNat_ofNat_of_lt (show 0x80 + c.val % 0x40 < 256 by omega)
  simp only [pieceFrom, lead]
  rw [if_neg (by omega), if_neg (by omega), if_pos (by omega)]
  refine continuation_of_continues c rest [] _ _ _ _ _ ⟨by omega, by omega, by simp⟩ ?_
  simp only [List.foldl_cons, List.foldl_nil, gather, second]
  omega

theorem pieceFrom_three (atLeast : 0x800 ≤ c.val) (below : c.val < 0x10000)
    (outside : c.val < 0xD800 ∨ 0xE000 ≤ c.val) :
    pieceFrom false (UInt8.ofNat (0xE0 + c.val / 0x1000))
      (UInt8.ofNat (0x80 + c.val / 0x40 % 0x40) :: UInt8.ofNat (0x80 + c.val % 0x40) :: rest) =
        (.point c, rest) := by
  have lead := toNat_ofNat_of_lt (show 0xE0 + c.val / 0x1000 < 256 by omega)
  have second := toNat_ofNat_of_lt (show 0x80 + c.val / 0x40 % 0x40 < 256 by omega)
  have third := toNat_ofNat_of_lt (show 0x80 + c.val % 0x40 < 256 by omega)
  have read {value low high : Nat} {taken : Octets} (front : value = c.val / 0x1000)
      (low_le : low ≤ 0x80 + c.val / 0x40 % 0x40) (le_high : 0x80 + c.val / 0x40 % 0x40 ≤ high) :
      continuation value taken 2 low high (UInt8.ofNat (0x80 + c.val / 0x40 % 0x40) ::
        UInt8.ofNat (0x80 + c.val % 0x40) :: rest) = (.point c, rest) := by
    refine continuation_of_continues c rest [_] _ _ _ _ _ ⟨by omega, by omega, ?_⟩ ?_
    · simp only [List.mem_singleton, forall_eq, third]
      omega
    · simp only [List.foldl_cons, List.foldl_nil, gather, second, third]
      omega
  simp only [pieceFrom, lead]
  rw [if_neg (by omega), if_neg (by omega), if_neg (by omega)]
  -- The first and the last rows of three octets have narrower bounds for the second octet.
  by_cases low : c.val < 0x1000
  · rw [if_pos (by omega)]
    exact read (by omega) (by omega) (by omega)
  rw [if_neg (by omega)]
  by_cases row : c.val / 0x1000 = 0xD
  · rw [if_pos (by omega)]
    exact read (by omega) (by omega) (by omega)
  · rw [if_neg (by omega), if_pos (by omega)]
    exact read (by omega) (by omega) (by omega)

theorem pieceFrom_four (atLeast : 0x10000 ≤ c.val) :
    pieceFrom false (UInt8.ofNat (0xF0 + c.val / 0x40000))
      (UInt8.ofNat (0x80 + c.val / 0x1000 % 0x40) :: UInt8.ofNat (0x80 + c.val / 0x40 % 0x40) ::
        UInt8.ofNat (0x80 + c.val % 0x40) :: rest) = (.point c, rest) := by
  have bound := c.val_lt
  have lead := toNat_ofNat_of_lt (show 0xF0 + c.val / 0x40000 < 256 by omega)
  have second := toNat_ofNat_of_lt (show 0x80 + c.val / 0x1000 % 0x40 < 256 by omega)
  have third := toNat_ofNat_of_lt (show 0x80 + c.val / 0x40 % 0x40 < 256 by omega)
  have fourth := toNat_ofNat_of_lt (show 0x80 + c.val % 0x40 < 256 by omega)
  have read {value low high : Nat} {taken : Octets} (front : value = c.val / 0x40000)
      (low_le : low ≤ 0x80 + c.val / 0x1000 % 0x40)
      (le_high : 0x80 + c.val / 0x1000 % 0x40 ≤ high) :
      continuation value taken 3 low high (UInt8.ofNat (0x80 + c.val / 0x1000 % 0x40) ::
        UInt8.ofNat (0x80 + c.val / 0x40 % 0x40) :: UInt8.ofNat (0x80 + c.val % 0x40) :: rest) =
          (.point c, rest) := by
    refine continuation_of_continues c rest [_, _] _ _ _ _ _ ⟨by omega, by omega, ?_⟩ ?_
    · simp only [List.mem_cons, List.not_mem_nil, or_false, forall_eq_or_imp, forall_eq, third,
        fourth]
      omega
    · simp only [List.foldl_cons, List.foldl_nil, gather, second, third, fourth]
      omega
  simp only [pieceFrom, lead]
  rw [if_neg (by omega), if_neg (by omega), if_neg (by omega), if_neg (by omega),
    if_neg (by omega), if_neg (by omega)]
  by_cases low : c.val < 0x40000
  · rw [if_pos (by omega)]
    exact read (by omega) (by omega) (by omega)
  rw [if_neg (by omega)]
  by_cases middle : c.val < 0x100000
  · rw [if_pos (by omega)]
    exact read (by omega) (by omega) (by omega)
  · rw [if_neg (by omega), if_pos (by omega)]
    exact read (by omega) (by omega) (by omega)

end Points

/-- The octets of one code point, whatever follows them, are read as that code point. -/
theorem pieceFrom_encodePoint (c : CodePoint) (proper : c.isSurrogate = false)
    (rest : Octets) :
    ∃ first more, encodePoint c = first :: more ∧
      pieceFrom false first (more ++ rest) = (.point c, rest) := by
  have outside : c.val < 0xD800 ∨ 0xE000 ≤ c.val := by
    simp only [CodePoint.isSurrogate, Bool.and_eq_false_iff, decide_eq_false_iff_not] at proper
    omega
  unfold encodePoint
  split
  next one =>
    refine ⟨_, _, rfl, ?_⟩
    simp only [pieceFrom, toNat_ofNat_of_lt (show c.val < 256 by omega), one, if_true,
      List.nil_append]
    exact continuation_zero _ _ _ _ _ c rfl
  next notOne =>
    split
    next two => exact ⟨_, _, rfl, pieceFrom_two (by omega) two⟩
    next notTwo =>
      split
      next three => exact ⟨_, _, rfl, pieceFrom_three (by omega) three outside⟩
      next notThree => exact ⟨_, _, rfl, pieceFrom_four (by omega)⟩

/-! ## Whole texts -/

/-- Any fuel that suffices for one piece per octet cuts a spelled text into its code points. -/
theorem piecesWithin_spell : ∀ (s : Text) (fuel : Nat),
    (∀ c ∈ s, c.isSurrogate = false) → (spell s).length ≤ fuel →
      piecesWithin false fuel (spell s) = s.map Piece.point := by
  intro s
  induction s with
  | nil =>
      intro fuel _ _
      cases fuel <;> rfl
  | cons c rest ih =>
      intro fuel proper enough
      obtain ⟨first, more, spelled, piece⟩ :=
        pieceFrom_encodePoint c (proper c (by simp)) (spell rest)
      have spellCons : spell (c :: rest) = first :: (more ++ spell rest) := by
        simp [spell, spelled]
      rw [spellCons] at enough ⊢
      cases fuel with
      | zero => simp at enough
      | succ fuel =>
          simp only [piecesWithin, piece, List.map_cons]
          rw [ih fuel (fun d member => proper d (by simp [member]))]
          simp only [List.length_cons, List.length_append] at enough
          omega

theorem wholePoints_map_point : ∀ (s : Text) (start : Nat),
    wholePoints start (s.map Piece.point) = .ok s := by
  intro s
  induction s with
  | nil => intro start; rfl
  | cons c rest ih =>
      intro start
      simp only [List.map_cons, wholePoints, ih]
      rfl

theorem decode?_spell (s : Text) (proper : ∀ c ∈ s, c.isSurrogate = false) :
    decode? (spell s) = some s := by
  simp only [decode?, pieces, piecesWithin_spell s _ proper (Nat.le_refl _),
    wholePoints_map_point]
  rfl

end Utf8

end SearchShell
