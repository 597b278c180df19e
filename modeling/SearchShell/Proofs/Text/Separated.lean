import SearchShell.Proofs.Text.Words

/-!
# Separators between pieces

How many separators stand before, between and after the pieces of a text makes no difference.  A
text is put together from some pieces and separators exactly when these are its pieces, so they are
its maximal runs without the separator.
-/

set_option autoImplicit false

namespace SearchShell

namespace Text

structure IsPiece (separator : CodePoint) (s : Text) : Prop where
  nonempty : s ≠ []
  whole : separator ∉ s

def IsRun (separator : CodePoint) (s : Text) : Prop := ∀ c ∈ s, c = separator

/-- Pieces in order, each with the separators that follow it.  Only after the last of them can there
be none. -/
inductive IsStrung (separator : CodePoint) : List Text → Text → Prop
  | none : IsStrung separator [] []
  | piece {piece run later : Text} {others : List Text} (isPiece : IsPiece separator piece)
      (isRun : IsRun separator run) (apart : run = [] → others = [])
      (strung : IsStrung separator others later) :
      IsStrung separator (piece :: others) (piece ++ (run ++ later))

/-- Pieces in order, with separators before, between and after them. -/
inductive IsSeparated (separator : CodePoint) (parts : List Text) : Text → Prop
  | intro {run body : Text} (isRun : IsRun separator run)
      (strung : IsStrung separator parts body) : IsSeparated separator parts (run ++ body)

variable {separator : CodePoint}

/-! ## Pieces of a text put together -/

@[simp] theorem pieces_nil : pieces separator [] = [] := by simp [pieces]

theorem pieces_append_cons (s t : Text) :
    pieces separator (s ++ separator :: t) = pieces separator s ++ pieces separator t := by
  simp only [pieces, List.splitOn_eq_splitOnP]
  rw [List.splitOnP_append_cons s t (by simp), List.filter_append]

theorem pieces_run_append {run : Text} (isRun : IsRun separator run) (s : Text) :
    pieces separator (run ++ s) = pieces separator s := by
  induction run with
  | nil => rfl
  | cons c rest ih =>
      have same : c = separator := isRun c List.mem_cons_self
      have others := ih fun d member => isRun d (List.mem_cons_of_mem c member)
      subst same
      rw [← others]
      exact pieces_append_cons [] (rest ++ s)

theorem IsPiece.pieces_eq {piece : Text} (isPiece : IsPiece separator piece) :
    pieces separator piece = [piece] := by
  rw [pieces, List.splitOn_eq_singleton isPiece.whole]
  exact List.filter_cons_of_pos (by simpa using isPiece.nonempty)

theorem IsPiece.pieces_append_run {piece run : Text} (isPiece : IsPiece separator piece)
    (isRun : IsRun separator run) (some : run ≠ []) (later : Text) :
    pieces separator (piece ++ (run ++ later)) = piece :: pieces separator later := by
  obtain ⟨c, rest, rfl⟩ := List.exists_cons_of_ne_nil some
  have same : c = separator := isRun c List.mem_cons_self
  have others : IsRun separator rest := fun d member => isRun d (List.mem_cons_of_mem c member)
  subst same
  rw [List.cons_append, pieces_append_cons, isPiece.pieces_eq, pieces_run_append others,
    List.singleton_append]

theorem IsStrung.eq_nil {s : Text} (strung : IsStrung separator [] s) : s = [] := by
  cases strung with
  | none => rfl

theorem IsStrung.pieces_eq {parts : List Text} {s : Text} (strung : IsStrung separator parts s) :
    pieces separator s = parts := by
  induction strung with
  | none => exact pieces_nil
  | @piece piece run later others isPiece isRun apart strung ih =>
      by_cases touching : run = []
      · -- Nothing follows the last piece.
        obtain rfl := apart touching
        rw [touching, strung.eq_nil, List.append_nil, List.append_nil, isPiece.pieces_eq]
      · rw [isPiece.pieces_append_run isRun touching, ih]

/-! ## Every text is put together from pieces -/

theorem isRun_nil : IsRun separator [] := fun _ member => absurd member List.not_mem_nil

theorem IsRun.cons {run : Text} (isRun : IsRun separator run) :
    IsRun separator (separator :: run) :=
  List.forall_mem_cons.mpr ⟨rfl, isRun⟩

theorem isPiece_singleton {c : CodePoint} (apart : c ≠ separator) : IsPiece separator [c] :=
  ⟨List.cons_ne_nil c [], by simpa using Ne.symm apart⟩

theorem IsPiece.cons {piece : Text} (isPiece : IsPiece separator piece) {c : CodePoint}
    (apart : c ≠ separator) : IsPiece separator (c :: piece) :=
  ⟨List.cons_ne_nil c piece, List.not_mem_cons_of_ne_of_not_mem (Ne.symm apart) isPiece.whole⟩

theorem exists_isSeparated (s : Text) : ∃ parts, IsSeparated separator parts s := by
  induction s with
  | nil => exact ⟨[], .intro isRun_nil .none⟩
  | cons c rest ih =>
      obtain ⟨parts, @⟨run, body, isRun, strung⟩⟩ := ih
      by_cases here : c = separator
      · subst here
        exact ⟨parts, .intro isRun.cons strung⟩
      · by_cases touching : run = []
        · -- The code point belongs to the first piece, if there is one.
          subst touching
          cases strung with
          | none =>
              exact ⟨[[c]], .intro isRun_nil
                (.piece (isPiece_singleton here) isRun_nil (fun _ => rfl) .none)⟩
          | piece isPiece isRun apart strung =>
              exact ⟨_, .intro isRun_nil (.piece (isPiece.cons here) isRun apart strung)⟩
        · exact ⟨[c] :: parts, .intro isRun_nil
            (.piece (isPiece_singleton here) isRun (fun none => absurd none touching) strung)⟩

/-- The pieces of a text are those that it is put together from. -/
theorem pieces_eq_iff (s : Text) (parts : List Text) :
    pieces separator s = parts ↔ IsSeparated separator parts s := by
  have found {others : List Text} {t : Text} (separated : IsSeparated separator others t) :
      pieces separator t = others := by
    obtain ⟨isRun, strung⟩ := separated
    rw [pieces_run_append isRun, strung.pieces_eq]
  constructor
  · rintro rfl
    obtain ⟨parts, separated⟩ := exists_isSeparated s
    rwa [found separated]
  · exact found

theorem isPiece_of_mem_pieces {s piece : Text} (member : piece ∈ pieces separator s) :
    IsPiece separator piece where
  nonempty := piece_ne_nil member
  whole := not_mem_of_mem_splitOn (List.mem_filter.mp member).1

/-- Pieces that are joined are found again. -/
theorem pieces_joined {parts : List Text} (each : ∀ part ∈ parts, IsPiece separator part) :
    pieces separator (joined [separator] parts) = parts := by
  by_cases none : parts = []
  · subst none
    exact pieces_nil
  · rw [pieces, splitOn_joined none fun part member => (each part member).whole,
      List.filter_eq_self]
    intro part member
    simpa using (each part member).nonempty

/-! ## Blanks around pieces -/

theorem IsLed.append {s : Text} (led : IsLed s) (nonempty : s ≠ []) (t : Text) :
    IsLed (s ++ t) := by
  obtain ⟨first, others, rfl⟩ := List.exists_cons_of_ne_nil nonempty
  exact fun c isHead => led c isHead

/-- A text ends as its last part does. -/
theorem isLed_reverse_append {t : Text} (closed : IsLed t.reverse) (nonempty : t ≠ []) (s : Text) :
    IsLed (s ++ t).reverse := by
  rw [List.reverse_append]
  exact closed.append (List.reverse_ne_nil_iff.mpr nonempty) s.reverse

section Solid

variable (solid : separator.isBlank = false)

include solid

theorem IsRun.isTight {run : Text} (isRun : IsRun separator run) : IsTight run :=
  isTight_of_unbroken fun c member => isRun c member ▸ solid

variable {parts : List Text}

theorem IsStrung.closed {s : Text} (strung : IsStrung separator parts s)
    (closed : ∀ last ∈ parts.getLast?, IsLed last.reverse) : IsLed s.reverse := by
  induction strung with
  | none => exact nofun
  | @piece piece run later others isPiece isRun apart strung ih =>
      by_cases ended : later = []
      · subst ended
        rw [List.append_nil]
        by_cases touching : run = []
        · obtain rfl := apart touching
          rw [touching, List.append_nil]
          exact closed piece rfl
        · exact isLed_reverse_append (isRun.isTight solid).closed touching piece
      · -- The text ends with a later piece or with what follows it.
        have more : others ≠ [] := by
          rintro rfl
          exact ended strung.eq_nil
        rw [List.getLast?_cons_of_ne_nil more] at closed
        rw [← List.append_assoc]
        exact isLed_reverse_append (ih closed) ended (piece ++ run)

/-- A text begins and ends with no blank if its pieces do not and the separator is none. -/
theorem IsSeparated.isTight {s : Text} (separated : IsSeparated separator parts s)
    (led : ∀ first ∈ parts.head?, IsLed first)
    (closed : ∀ last ∈ parts.getLast?, IsLed last.reverse) : IsTight s := by
  obtain @⟨run, body, isRun, strung⟩ := separated
  constructor
  · by_cases touching : run = []
    · subst touching
      cases strung with
      | none => exact nofun
      | @piece piece _ _ _ isPiece => exact (led piece rfl).append isPiece.nonempty _
    · exact (isRun.isTight solid).led.append touching body
  · by_cases ended : body = []
    · rw [ended, List.append_nil]
      exact (isRun.isTight solid).closed
    · exact isLed_reverse_append (strung.closed solid closed) ended run

end Solid

end Text

end SearchShell
