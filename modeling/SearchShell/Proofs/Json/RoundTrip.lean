import SearchShell.Command.Basic
import SearchShell.Proofs.Json.Writable
import SearchShell.Table

/-!
# Reading what was written

A readable value is read back from its own text, on one line or spread over lines, whatever
stands behind it in a collection.
-/

set_option autoImplicit false

namespace SearchShell

namespace JsonReader

open Json (IsReadable Style)
open Outcome

/-! ## Blanks -/

def IsBlank (s : Text) : Prop := ∀ c ∈ s, isSpace c = true

structure Begins (s : Text) : Prop where
  nonempty : s ≠ []
  visible : ∀ c ∈ s.head?, isSpace c = false
  notClosing : ∀ c ∈ s.head?, c ≠ CodePoint.ofChar ']' ∧ c ≠ CodePoint.ofChar '}'

theorem Begins.append {s : Text} (begins : Begins s) (rest : Text) : Begins (s ++ rest) := by
  obtain ⟨c, more, rfl⟩ := List.exists_cons_of_ne_nil begins.nonempty
  exact ⟨List.cons_ne_nil _ _, begins.visible, begins.notClosing⟩

theorem skipSpace_blank {blanks s : Text} (blank : IsBlank blanks)
    (visible : ∀ c ∈ s.head?, isSpace c = false) : skipSpace (blanks ++ s) = s := by
  rw [skipSpace, List.dropWhile_append_of_pos blank]
  cases s with
  | nil => rfl
  | cons c more =>
      rw [List.dropWhile_cons_of_neg]
      rw [visible c rfl]
      exact Bool.false_ne_true

theorem endsValue_nil : EndsValue [] := by
  intro c isHead
  cases isHead

theorem endsValue_cons {c : CodePoint} (mark : c = CodePoint.ofChar ',' ∨ c = CodePoint.ofChar ']' ∨
    c = CodePoint.ofChar '}') (rest : Text) : EndsValue (c :: rest) := by
  intro d isHead
  cases isHead
  exact Or.inr mark

theorem endsValue_blank {blanks : Text} (blank : IsBlank blanks) {s : Text} (ends : EndsValue s) :
    EndsValue (blanks ++ s) := by
  cases blanks with
  | nil => exact ends
  | cons c more =>
      intro d isHead
      cases isHead
      exact Or.inl (blank c List.mem_cons_self)

theorem readContinuation_closing {blanks : Text} (blank : IsBlank blanks) {closing : CodePoint}
    (visible : isSpace closing = false) (rest : Text) :
    readContinuation closing (blanks ++ closing :: rest) = .ok (true, rest) := by
  have isHead : ∀ c ∈ (closing :: rest).head?, isSpace c = false := by
    intro c isHead
    cases isHead
    exact visible
  rw [readContinuation, skipSpace_blank blank isHead]
  simp

theorem readContinuation_comma {blanks : Text} (blank : IsBlank blanks) {closing : CodePoint}
    (other : CodePoint.ofChar ',' ≠ closing) {s : Text} (begins : Begins s) :
    readContinuation closing (CodePoint.ofChar ',' :: (blanks ++ s)) = .ok (false, s) := by
  have comma : skipSpace (CodePoint.ofChar ',' :: (blanks ++ s)) =
      CodePoint.ofChar ',' :: (blanks ++ s) := rfl
  rw [readContinuation, comma]
  simp [other, skipSpace_blank blank begins.visible]

/-! ## Collections -/

/-- The text is read as the value, whatever comes after it. -/
structure IsTextOf (readValue : Reader Json) (v : Json) (s : Text) : Prop where
  reads : ∀ {rest : Text}, EndsValue rest → readValue (s ++ rest) = .ok (v, rest)
  begins : Begins s

theorem begins_joined (separator : Text) {parts : List Text} (nonempty : parts ≠ [])
    (each : ∀ part ∈ parts, Begins part) : Begins (Text.joined separator parts) := by
  obtain ⟨first, others, rfl⟩ := List.exists_cons_of_ne_nil nonempty
  have begins := each first List.mem_cons_self
  by_cases single : others = []
  · rw [single, Text.joined, List.intercalate_singleton]
    exact begins
  · rw [Text.joined, List.intercalate_cons_of_ne_nil single, List.append_assoc]
    exact begins.append _

theorem joined_cons {separator part : Text} {others : List Text} (nonempty : others ≠ [])
    (rest : Text) : Text.joined separator (part :: others) ++ rest =
      part ++ (separator ++ (Text.joined separator others ++ rest)) := by
  rw [Text.joined, List.intercalate_cons_of_ne_nil nonempty, List.append_assoc, List.append_assoc]
  rfl

/-! ## Members -/

def memberText (nameMark : Text) (write : Json → Text) (member : Text × Json) : Text :=
  Json.stringText false member.1 ++ nameMark ++ write member.2

theorem begins_memberText (nameMark : Text) (write : Json → Text) (member : Text × Json) :
    Begins (memberText nameMark write member) := by
  refine ⟨?_, ?_, ?_⟩
  · simp [memberText, Json.stringText, text]
  · intro c isHead
    cases isHead
    decide
  · intro c isHead
    cases isHead
    decide

theorem readName_memberText {blanks : Text} (blank : IsBlank blanks) (write : Json → Text)
    (member : Text × Json) {rest : Text} (begins : Begins (write member.2 ++ rest)) :
    readName (memberText (CodePoint.ofChar ':' :: blanks) write member ++ rest) =
      .ok (member.1, write member.2 ++ rest) := by
  have written : memberText (CodePoint.ofChar ':' :: blanks) write member ++ rest =
      CodePoint.ofChar '"' :: (member.1.flatMap (Json.stringPoint false) ++ CodePoint.ofChar '"' ::
        CodePoint.ofChar ':' :: (blanks ++ (write member.2 ++ rest))) := by
    simp [memberText, Json.stringText, text]
  have colon : skipSpace (CodePoint.ofChar ':' :: (blanks ++ (write member.2 ++ rest))) =
      CodePoint.ofChar ':' :: (blanks ++ (write member.2 ++ rest)) := rfl
  rw [written, readName, if_pos rfl, readString_written]
  simp only [bind, Except.bind, colon, if_true, skipSpace_blank blank begins.visible]

section Collections

variable {readValue : Reader Json}

theorem readItems_last {fuel : Nat} {s tail rest : Text} {item : Json}
    (read : readValue s = .ok (item, tail))
    (closed : readContinuation (CodePoint.ofChar ']') tail = .ok (true, rest)) :
    readItems readValue (fuel + 1) s = .ok ([item], rest) := by
  rw [readItems, read]
  simp only [bind, Except.bind, closed]
  rfl

theorem readItems_next {fuel : Nat} {s tail next rest : Text} {item : Json} {items : List Json}
    (read : readValue s = .ok (item, tail))
    (continued : readContinuation (CodePoint.ofChar ']') tail = .ok (false, next))
    (others : readItems readValue fuel next = .ok (items, rest)) :
    readItems readValue (fuel + 1) s = .ok (item :: items, rest) := by
  rw [readItems, read]
  simp only [bind, Except.bind, continued, others]
  rfl

theorem readMembers_last {fuel : Nat} {s valueText tail rest name : Text} {value : Json}
    (named : readName s = .ok (name, valueText)) (read : readValue valueText = .ok (value, tail))
    (closed : readContinuation (CodePoint.ofChar '}') tail = .ok (true, rest)) :
    readMembers readValue (fuel + 1) s = .ok ([(name, value)], rest) := by
  rw [readMembers, named]
  simp only [bind, Except.bind, read, closed]
  rfl

theorem readMembers_next {fuel : Nat} {s valueText tail next rest name : Text} {value : Json}
    {members : List (Text × Json)} (named : readName s = .ok (name, valueText))
    (read : readValue valueText = .ok (value, tail))
    (continued : readContinuation (CodePoint.ofChar '}') tail = .ok (false, next))
    (others : readMembers readValue fuel next = .ok (members, rest)) :
    readMembers readValue (fuel + 1) s = .ok ((name, value) :: members, rest) := by
  rw [readMembers, named]
  simp only [bind, Except.bind, read, continued, others]
  rfl

variable {blanks closingBlanks : Text} (blank : IsBlank blanks)
  (closingBlank : IsBlank closingBlanks)

include blank closingBlank

theorem readItems_joined (write : Json → Text) (rest : Text) : ∀ (items : List Json) (fuel : Nat),
    items ≠ [] → items.length ≤ fuel → (∀ item ∈ items, IsTextOf readValue item (write item)) →
    readItems readValue fuel
        (Text.joined (CodePoint.ofChar ',' :: blanks) (items.map write) ++
          (closingBlanks ++ CodePoint.ofChar ']' :: rest)) = .ok (items, rest) := by
  intro items
  induction items with
  | nil => intro _ nonempty; exact absurd rfl nonempty
  | cons item others ih =>
      intro fuel _ enough each
      obtain ⟨fuel, rfl⟩ := Nat.exists_eq_succ_of_ne_zero (Nat.ne_zero_of_lt enough)
      have first := each item List.mem_cons_self
      have later : ∀ item ∈ others, IsTextOf readValue item (write item) :=
        fun item member => each item (List.mem_cons_of_mem _ member)
      by_cases single : others = []
      · rw [single, List.map_singleton, Text.joined, List.intercalate_singleton]
        exact readItems_last
          (first.reads (endsValue_blank closingBlank (endsValue_cons (Or.inr (Or.inl rfl)) rest)))
          (readContinuation_closing closingBlank (by decide) rest)
      · have more : others.map write ≠ [] := by simpa using single
        have begins : Begins (Text.joined (CodePoint.ofChar ',' :: blanks) (others.map write)) := by
          exact begins_joined _ more
            (List.forall_mem_map.mpr fun item isItem => (later item isItem).begins)
        rw [List.map_cons, joined_cons more]
        exact readItems_next (first.reads (endsValue_cons (Or.inl rfl) _))
          (readContinuation_comma blank (by decide) (begins.append _))
          (ih fuel single (Nat.le_of_succ_le_succ enough) later)

theorem readMembers_joined {nameBlanks : Text} (nameBlank : IsBlank nameBlanks)
    (write : Json → Text) (rest : Text) : ∀ (members : List (Text × Json)) (fuel : Nat),
    members ≠ [] → members.length ≤ fuel →
    (∀ member ∈ members, IsTextOf readValue member.2 (write member.2)) →
    readMembers readValue fuel
        (Text.joined (CodePoint.ofChar ',' :: blanks)
            (members.map (memberText (CodePoint.ofChar ':' :: nameBlanks) write)) ++
          (closingBlanks ++ CodePoint.ofChar '}' :: rest)) = .ok (members, rest) := by
  intro members
  induction members with
  | nil => intro _ nonempty; exact absurd rfl nonempty
  | cons member others ih =>
      intro fuel _ enough each
      obtain ⟨fuel, rfl⟩ := Nat.exists_eq_succ_of_ne_zero (Nat.ne_zero_of_lt enough)
      have first := each member List.mem_cons_self
      have later : ∀ member ∈ others, IsTextOf readValue member.2 (write member.2) :=
        fun member isMember => each member (List.mem_cons_of_mem _ isMember)
      by_cases single : others = []
      · rw [single, List.map_singleton, Text.joined, List.intercalate_singleton]
        exact readMembers_last (readName_memberText nameBlank write member (first.begins.append _))
          (first.reads (endsValue_blank closingBlank (endsValue_cons (Or.inr (Or.inr rfl)) rest)))
          (readContinuation_closing closingBlank (by decide) rest)
      · have more : others.map (memberText (CodePoint.ofChar ':' :: nameBlanks) write) ≠ [] := by
          simpa using single
        have begins : Begins (Text.joined (CodePoint.ofChar ',' :: blanks)
            (others.map (memberText (CodePoint.ofChar ':' :: nameBlanks) write))) := by
          exact begins_joined _ more
            (List.forall_mem_map.mpr fun member _ => begins_memberText _ write member)
        rw [List.map_cons, joined_cons more]
        exact readMembers_next (readName_memberText nameBlank write member (first.begins.append _))
          (first.reads (endsValue_cons (Or.inl rfl) _))
          (readContinuation_comma blank (by decide) (begins.append _))
          (ih fuel single (Nat.le_of_succ_le_succ enough) later)

theorem readArray_joined (write : Json → Text) (rest : Text) {items : List Json} {fuel : Nat}
    (nonempty : items ≠ []) (enough : items.length ≤ fuel)
    (each : ∀ item ∈ items, IsTextOf readValue item (write item)) :
    readArray readValue fuel (blanks ++
        (Text.joined (CodePoint.ofChar ',' :: blanks) (items.map write) ++
          (closingBlanks ++ CodePoint.ofChar ']' :: rest))) = .ok (.array items, rest) := by
  have begins : Begins (Text.joined (CodePoint.ofChar ',' :: blanks) (items.map write)) := by
    exact begins_joined _ (by simpa using nonempty)
      (List.forall_mem_map.mpr fun item isItem => (each item isItem).begins)
  have reads := readItems_joined blank closingBlank write rest items fuel nonempty enough each
  have whole := begins.append (closingBlanks ++ CodePoint.ofChar ']' :: rest)
  rw [readArray, skipSpace_blank blank whole.visible]
  generalize Text.joined _ _ ++ _ = s at reads whole ⊢
  obtain ⟨c, more, rfl⟩ := List.exists_cons_of_ne_nil whole.nonempty
  simp only [if_neg (whole.notClosing c rfl).1, reads, bind, Except.bind]

theorem readObject_joined {nameBlanks : Text} (nameBlank : IsBlank nameBlanks) (write : Json → Text)
    (rest : Text) {members : Members} {fuel : Nat} (distinct : (members.map Prod.fst).Nodup)
    (nonempty : members ≠ []) (enough : members.length ≤ fuel)
    (each : ∀ member ∈ members, IsTextOf readValue member.2 (write member.2)) :
    readObject readValue fuel (blanks ++
        (Text.joined (CodePoint.ofChar ',' :: blanks)
            (members.map (memberText (CodePoint.ofChar ':' :: nameBlanks) write)) ++
          (closingBlanks ++ CodePoint.ofChar '}' :: rest))) = .ok (.object members, rest) := by
  have begins : Begins (Text.joined (CodePoint.ofChar ',' :: blanks)
      (members.map (memberText (CodePoint.ofChar ':' :: nameBlanks) write))) := by
    exact begins_joined _ (by simpa using nonempty)
      (List.forall_mem_map.mpr fun member _ => begins_memberText _ write member)
  have reads := readMembers_joined blank closingBlank nameBlank write rest members fuel nonempty
    enough each
  have whole := begins.append (closingBlanks ++ CodePoint.ofChar '}' :: rest)
  rw [readObject, skipSpace_blank blank whole.visible]
  generalize Text.joined _ _ ++ _ = s at reads whole ⊢
  obtain ⟨c, more, rfl⟩ := List.exists_cons_of_ne_nil whole.nonempty
  simp only [if_neg (whole.notClosing c rfl).2, reads, bind, Except.bind,
    Members.ofList_of_nodup distinct]

end Collections

/-! ## Values -/

structure IsJsonStyle (style : Style) : Prop where
  nullWord : style.nullWord = text "null"
  trueWord : style.trueWord = text "true"
  falseWord : style.falseWord = text "false"
  floats : style.floats = FloatStyle.json
  string : style.string = Json.stringText false
  nameMark : ∃ blanks, style.nameMark = CodePoint.ofChar ':' :: blanks ∧ IsBlank blanks
  itemMark : style.itemMark = text ","

theorem isJsonStyle_compact : IsJsonStyle Style.compact where
  nullWord := rfl
  trueWord := rfl
  falseWord := rfl
  floats := rfl
  string := rfl
  nameMark := ⟨[], rfl, nofun⟩
  itemMark := rfl

theorem isJsonStyle_indented : IsJsonStyle Style.indented where
  nullWord := rfl
  trueWord := rfl
  falseWord := rfl
  floats := rfl
  string := rfl
  nameMark := ⟨[CodePoint.ofChar ' '], rfl, by simp [IsBlank]; decide⟩
  itemMark := rfl

theorem isBlank_lineStart (style : Style) (level : Nat) : IsBlank (style.lineStart level) := by
  intro c member
  rw [Style.lineStart] at member
  split at member
  next => cases member
  next =>
    rcases List.mem_cons.mp member with rfl | space
    · decide
    · rw [List.eq_of_mem_replicate space]
      decide

theorem enclosed_append {style : Style} {items : List Text} (nonempty : items ≠ []) (level : Nat)
    (opening closing : CodePoint) (rest : Text) :
    style.enclosed level opening closing items ++ rest =
      opening :: (style.lineStart (level + 1) ++
        (Text.joined (style.itemMark ++ style.lineStart (level + 1)) items ++
          (style.lineStart level ++ closing :: rest))) := by
  have some : items.isEmpty = false := List.isEmpty_eq_false_iff.mpr nonempty
  simp [Style.enclosed, some]

theorem length_joined_le_enclosed {style : Style} {items : List Text} (nonempty : items ≠ [])
    (level : Nat) (opening closing : CodePoint) :
    (Text.joined (style.itemMark ++ style.lineStart (level + 1)) items).length ≤
      (style.enclosed level opening closing items).length := by
  have whole := @enclosed_append style _ nonempty level opening closing []
  rw [List.append_nil] at whole
  rw [whole]
  simp only [List.length_cons, List.length_append]
  omega

theorem length_le_enclosed {style : Style} {part : Text} {items : List Text} (member : part ∈ items)
    (level : Nat) (opening closing : CodePoint) :
    part.length ≤ (style.enclosed level opening closing items).length :=
  Nat.le_trans (Text.length_le_joined _ member)
    (length_joined_le_enclosed (List.ne_nil_of_mem member) level opening closing)

theorem writeItems_eq_map (style : Style) (level : Nat) : ∀ items : List Json,
    Json.writeItems style level items = items.map (Json.write style level) := by
  intro items
  induction items with
  | nil => rfl
  | cons item rest ih => rw [Json.writeItems, ih, List.map_cons]

theorem writeMembers_eq_map {style : Style} (string : style.string = Json.stringText false)
    (level : Nat) : ∀ members : List (Text × Json), Json.writeMembers style level members =
      members.map (memberText style.nameMark (Json.write style level)) := by
  intro members
  induction members with
  | nil => rfl
  | cons member rest ih =>
      obtain ⟨name, value⟩ := member
      rw [Json.writeMembers, ih, List.map_cons, string]
      rfl

/-- Blanks, brackets and the quote: no word or number begins with one of them. -/
def marks : List CodePoint := [' ', '\t', '\n', '\r', '[', ']', '{', '}', '"']

theorem exists_cons_of_readScalar {s : Text} {r : Json × Text} (read : readScalar s = .ok r) :
    ∃ c more, s = c :: more ∧ c ∉ marks := by
  cases s with
  | nil => cases read
  | cons c more =>
      refine ⟨c, more, rfl, ?_⟩
      intro member
      simp only [marks, List.mem_cons, List.not_mem_nil, or_false] at member
      rcases member with rfl | rfl | rfl | rfl | rfl | rfl | rfl | rfl | rfl
      all_goals cases read

/-- A scalar is read the same wherever it stands. -/
theorem isTextOf_scalar {v : Json} {s : Text}
    (reads : ∀ {rest : Text}, EndsValue rest → readScalar (s ++ rest) = .ok (v, rest))
    (fuel depth : Nat) : IsTextOf (readValue fuel depth) v s := by
  refine ⟨?_, ?_⟩
  · intro rest ends
    have read := reads ends
    obtain ⟨c, more, written, other⟩ := exists_cons_of_readScalar read
    rw [← read, written]
    have quote : c ≠ CodePoint.ofChar '"' := fun same => other (by rw [same]; decide)
    have bracket : c ≠ CodePoint.ofChar '[' := fun same => other (by rw [same]; decide)
    have brace : c ≠ CodePoint.ofChar '{' := fun same => other (by rw [same]; decide)
    cases depth with
    | zero => simp [readValue, quote, bracket, brace]
    | succ depth => simp [readValue, quote, bracket, brace]
  · obtain ⟨c, more, written, other⟩ := exists_cons_of_readScalar (@reads [] endsValue_nil)
    rw [List.append_nil] at written
    rw [written]
    refine ⟨List.cons_ne_nil _ _, ?_, ?_⟩
    · intro d isHead
      cases isHead
      by_contra blank
      rcases eq_of_isSpace (Bool.not_eq_false _ ▸ blank) with rfl | rfl | rfl | rfl
      all_goals exact other (by decide)
    · intro d isHead
      cases isHead
      exact ⟨fun same => other (by rw [same]; decide), fun same => other (by rw [same]; decide)⟩

theorem isTextOf_string (s : Text) (fuel depth : Nat) :
    IsTextOf (readValue fuel depth) (.string s) (Json.stringText false s) := by
  refine ⟨?_, ?_, ?_, ?_⟩
  · intro rest ends
    have written : Json.stringText false s ++ rest = CodePoint.ofChar '"' ::
        (s.flatMap (Json.stringPoint false) ++ CodePoint.ofChar '"' :: rest) := by
      simp [Json.stringText, text]
    rw [written]
    cases depth with
    | zero => simp [readValue, readString_written, bind, Except.bind]
    | succ depth => simp [readValue, readString_written, bind, Except.bind]
  · simp [Json.stringText, text]
  · intro c isHead
    cases isHead
    decide
  · intro c isHead
    cases isHead
    decide

theorem count_le_enclosed {style : Style} {parts : List Text} (begins : ∀ part ∈ parts, Begins part)
    (level : Nat) (opening closing : CodePoint) :
    parts.length ≤ (style.enclosed level opening closing parts).length := by
  by_cases empty : parts = []
  · rw [empty]
    exact Nat.zero_le _
  · exact Nat.le_trans (Text.count_le_joined _ fun part member => (begins part member).nonempty)
      (length_joined_le_enclosed empty level opening closing)

theorem begins_opening {opening : CodePoint}
    (isOpening : opening = CodePoint.ofChar '[' ∨ opening = CodePoint.ofChar '{') (s : Text) :
    Begins (opening :: s) := by
  refine ⟨List.cons_ne_nil _ _, ?_, ?_⟩
  · intro c isHead
    cases isHead
    rcases isOpening with rfl | rfl
    all_goals decide
  · intro c isHead
    cases isHead
    rcases isOpening with rfl | rfl
    all_goals decide

theorem isTextOf_array {style : Style} (isJson : IsJsonStyle style) {depth level fuel : Nat}
    {items : List Json} {write : Json → Text}
    (each : ∀ item ∈ items, IsTextOf (readValue fuel depth) item (write item))
    (enough : (style.enclosed level '[' ']' (items.map write)).length ≤ fuel) :
    IsTextOf (readValue fuel (depth + 1)) (.array items)
      (style.enclosed level '[' ']' (items.map write)) := by
  by_cases empty : items = []
  · rw [empty]
    exact ⟨fun _ => rfl, begins_opening (Or.inl rfl) _⟩
  have nonempty : items.map write ≠ [] := by simpa using empty
  have count : items.length ≤ fuel := by
    rw [← List.length_map (f := write)]
    have begins : ∀ part ∈ items.map write, Begins part :=
      List.forall_mem_map.mpr fun item isItem => (each item isItem).begins
    exact Nat.le_trans (count_le_enclosed begins level _ _) enough
  refine ⟨?_, ?_⟩
  · intro rest _
    rw [enclosed_append nonempty, isJson.itemMark]
    exact readArray_joined (isBlank_lineStart style (level + 1)) (isBlank_lineStart style level)
      write rest empty count each
  · rw [← List.append_nil (style.enclosed _ _ _ _), enclosed_append nonempty]
    exact begins_opening (Or.inl rfl) _

theorem isTextOf_object {style : Style} (isJson : IsJsonStyle style) {depth level fuel : Nat}
    {members : Members} {write : Json → Text} (distinct : (members.map Prod.fst).Nodup)
    (each : ∀ member ∈ members, IsTextOf (readValue fuel depth) member.2 (write member.2))
    (enough : (style.enclosed level '{' '}'
      (members.map (memberText style.nameMark write))).length ≤ fuel) :
    IsTextOf (readValue fuel (depth + 1)) (.object members)
      (style.enclosed level '{' '}' (members.map (memberText style.nameMark write))) := by
  by_cases empty : members = []
  · rw [empty]
    exact ⟨fun _ => rfl, begins_opening (Or.inr rfl) _⟩
  have nonempty : members.map (memberText style.nameMark write) ≠ [] := by simpa using empty
  have count : members.length ≤ fuel := by
    rw [← List.length_map (f := memberText style.nameMark write)]
    have begins : ∀ part ∈ members.map (memberText style.nameMark write), Begins part :=
      List.forall_mem_map.mpr fun member _ => begins_memberText _ write member
    exact Nat.le_trans (count_le_enclosed begins level _ _) enough
  obtain ⟨nameBlanks, nameMark, nameBlank⟩ := isJson.nameMark
  refine ⟨?_, ?_⟩
  · intro rest _
    rw [enclosed_append nonempty, isJson.itemMark, nameMark]
    exact readObject_joined (isBlank_lineStart style (level + 1)) (isBlank_lineStart style level)
      nameBlank write rest distinct empty count each
  · rw [← List.append_nil (style.enclosed _ _ _ _), enclosed_append nonempty]
    exact begins_opening (Or.inr rfl) _

/-- A readable value is read back from its text in a collection. -/
theorem isTextOf_write {style : Style} (isJson : IsJsonStyle style) {depth : Nat} {v : Json}
    (readable : IsReadable depth v) :
    ∀ {level fuel : Nat}, (Json.write style level v).length ≤ fuel →
      IsTextOf (readValue fuel depth) v (Json.write style level v) := by
  -- A part is read with the fuel of the whole, so the fuel may be more than the text needs.
  induction readable with
  | null =>
      intro level fuel _
      rw [Json.write, isJson.nullWord]
      exact isTextOf_scalar (fun _ => readScalar_word (by simp [words]) _) fuel _
  | bool b =>
      intro level fuel _
      rw [Json.write, isJson.trueWord, isJson.falseWord]
      cases b with
      | true => exact isTextOf_scalar (fun _ => readScalar_word (by simp [words]) _) fuel _
      | false => exact isTextOf_scalar (fun _ => readScalar_word (by simp [words]) _) fuel _
  | integer short =>
      intro level fuel _
      exact isTextOf_scalar (readScalar_ofInt short) fuel _
  | float x =>
      intro level fuel _
      rw [Json.write, isJson.floats]
      exact isTextOf_scalar (readScalar_ofBinary64 x) fuel _
  | string s =>
      intro level fuel _
      rw [Json.write, isJson.string]
      exact isTextOf_string s fuel _
  | @array depth items each ih =>
      intro level fuel enough
      rw [Json.write, writeItems_eq_map] at enough ⊢
      refine isTextOf_array isJson ?_ enough
      intro item member
      have part := List.mem_map_of_mem (f := Json.write style (level + 1)) member
      exact ih item member (Nat.le_trans (length_le_enclosed part level _ _) enough)
  | @object depth members distinct each ih =>
      intro level fuel enough
      rw [Json.write, writeMembers_eq_map isJson.string] at enough ⊢
      refine isTextOf_object isJson distinct ?_ enough
      intro member isMember
      have part := List.mem_map_of_mem (f := memberText style.nameMark
        (Json.write style (level + 1))) isMember
      have shorter : (Json.write style (level + 1) member.2).length ≤
          (memberText style.nameMark (Json.write style (level + 1)) member).length := by
        rw [memberText, List.length_append]
        omega
      exact ih member isMember
        (Nat.le_trans shorter (Nat.le_trans (length_le_enclosed part level _ _) enough))

theorem readWhole_write {style : Style} (isJson : IsJsonStyle style) {depth : Nat} {v : Json}
    (readable : IsReadable depth v) : readWhole depth (Json.write style 0 v) = .ok v := by
  have isText : IsTextOf (readValue (Json.write style 0 v).length depth) v
      (Json.write style 0 v) := isTextOf_write isJson readable (Nat.le_refl _)
  have visible : skipSpace ([] ++ Json.write style 0 v) = Json.write style 0 v :=
    skipSpace_blank nofun isText.begins.visible
  have reads := @IsTextOf.reads _ _ _ isText [] endsValue_nil
  rw [List.nil_append] at visible
  rw [List.append_nil] at reads
  rw [readWhole, visible, reads]
  rfl

end JsonReader

/-! ## Objects -/

open Json (IsReadable IsWritable Style)
open JsonReader (IsJsonStyle)

section Objects

variable {depth : Nat} {s : Text} {d : Members}

theorem readObjectWithin_eq_ok_iff (depth : Nat) (s : Text) (d : Members) :
    readObjectWithin depth s = .ok d ↔ Json.read depth s = .ok (.object d) := by
  unfold readObjectWithin
  constructor
  · intro read
    split at read
    next found => rw [found, Except.ok.inj read]
    next => cases read
    next => cases read
    next => cases read
  · intro found
    rw [found]

theorem readObject_nonempty (read : readObjectWithin depth s = .ok d) : s ≠ [] := by
  rintro rfl
  cases depth with
  | zero => cases read
  | succ depth => cases read

theorem readWhole_of_readObjectWithin (read : readObjectWithin depth s = .ok d) :
    JsonReader.readWhole depth s = .ok (.object d) := by
  rw [readObjectWithin_eq_ok_iff, Json.read] at read
  split at read
  next => cases read
  next =>
    unfold Json.readDecoded at read
    split at read
    next found =>
      cases read
      exact found
    next => cases read

theorem readObjectWithin_isReadable (read : readObjectWithin depth s = .ok d) :
    IsReadable depth (.object d) :=
  JsonReader.readWhole_isReadable (readWhole_of_readObjectWithin read)

theorem head?_enclosed (style : Style) (level : Nat) (opening closing : CodePoint)
    (items : List Text) : (style.enclosed level opening closing items).head? = some opening := by
  unfold Style.enclosed
  split
  · rfl
  · rfl

/-- An object is read back from its text. -/
theorem readObjectWithin_write {style : Style} (isJson : IsJsonStyle style)
    (readable : IsReadable depth (.object d)) :
    readObjectWithin depth (Json.write style 0 (.object d)) = .ok d := by
  have noMark : (Json.write style 0 (.object d)).head? ≠ some CodePoint.byteOrderMark := by
    rw [Json.write, head?_enclosed]
    decide
  rw [readObjectWithin_eq_ok_iff, Json.read, if_neg noMark, Json.readDecoded,
    JsonReader.readWhole_write isJson readable]

theorem readObjectWithin_render {style : Style} (isJson : IsJsonStyle style)
    (readable : IsReadable depth (.object d)) {room : Nat}
    (rendered : (Json.object d).render style room = .ok s) : readObjectWithin depth s = .ok d := by
  obtain ⟨-, rfl⟩ := (Json.render_eq_ok_iff style room _ _).mp rendered
  exact readObjectWithin_write isJson readable

end Objects

/-- The objects that are read from some text are the readable ones.  Each of them has a text as a
document and a text in a cell when there is room for the calls that these take, and it is read back
from every text that it has. -/
theorem printed_object_reads_back (depth : Nat) (d : Members) :
    ((∃ s, readObjectWithin depth s = .ok d) ↔ IsReadable depth (.object d)) ∧
      ∀ room,
        (depth + 2 ≤ room → (IsReadable depth (.object d) ↔
          ∃ s, documentText room (.object d) = .ok s ∧ readObjectWithin depth s = .ok d)) ∧
        (depth ≤ room → (IsReadable depth (.object d) ↔
          ∃ s, cellText room (.object d) = .ok s ∧ readObjectWithin depth s = .ok d)) ∧
        ∀ s, documentText room (.object d) = .ok s ∨ cellText room (.object d) = .ok s →
          (IsReadable depth (.object d) ↔ readObjectWithin depth s = .ok d) := by
  have document {room : Nat} {s : Text} (readable : IsReadable depth (.object d))
      (shown : documentText room (.object d) = .ok s) : readObjectWithin depth s = .ok d :=
    readObjectWithin_render JsonReader.isJsonStyle_indented readable shown
  have cell {room : Nat} {s : Text} (readable : IsReadable depth (.object d))
      (shown : cellText room (.object d) = .ok s) : readObjectWithin depth s = .ok d :=
    readObjectWithin_render JsonReader.isJsonStyle_compact readable shown
  refine ⟨⟨?_, ?_⟩, fun room => ⟨fun enough => ⟨?_, ?_⟩, fun enough => ⟨?_, ?_⟩, fun s shown =>
    ⟨fun readable => shown.elim (document readable) (cell readable), readObjectWithin_isReadable⟩⟩⟩
  · rintro ⟨s, read⟩
    exact readObjectWithin_isReadable read
  · intro readable
    exact ⟨_, readObjectWithin_write JsonReader.isJsonStyle_compact readable⟩
  · intro readable
    have writable : IsWritable .indented room (.object d) :=
      readable.isWritable (Nat.le_of_succ_le enough) enough
    obtain ⟨s, shown⟩ := (Json.exists_render_iff _ _ _).mpr writable
    exact ⟨s, shown, document readable shown⟩
  · rintro ⟨s, -, read⟩
    exact readObjectWithin_isReadable read
  · intro readable
    have writable : IsWritable .compact room (.object d) := readable.isWritable enough enough
    obtain ⟨s, shown⟩ := (Json.exists_render_iff _ _ _).mpr writable
    exact ⟨s, shown, cell readable shown⟩
  · rintro ⟨s, -, read⟩
    exact readObjectWithin_isReadable read

/-- Setting a short integer in a readable object leaves it readable. -/
theorem Json.IsReadable.put {d : Members} {depth : Nat} (readable : IsReadable depth (.object d))
    (name : Text) {n : Int} (short : JsonReader.IsShort n) :
    IsReadable depth (.object (Members.put name (.integer n) d)) := by
  cases readable with
  | object distinct each =>
      refine .object (Members.nodup_put distinct) ?_
      intro member isMember
      rcases Members.mem_put isMember with rfl | old
      · exact .integer short
      · exact each member old

end SearchShell
