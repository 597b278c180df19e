import SearchShell.Proofs.Json.Grammar

/-!
# Words for numbers that are not finite

Outside its strings a JSON text has no letter that such a word begins with, and a written value has
one if a number in it is not finite.  So the text of a value is JSON exactly when all numbers in the
value are finite.
-/

set_option autoImplicit false

namespace SearchShell

namespace JsonGrammar

open JsonReader (IsBlank IsWhole IsJsonStyle)
open Json (Style)

/-! ## Outside of strings -/

inductive Place where
  | outside
  | inside
  /-- In a string, behind a backslash. -/
  | escaped
deriving DecidableEq

namespace Place

def next : Place → CodePoint → Place
  | outside, c => if c = CodePoint.ofChar '"' then inside else outside
  | inside, c =>
      if c = CodePoint.ofChar '"' then outside
      else if c = CodePoint.ofChar '\\' then escaped
      else inside
  | escaped, _ => inside

def after (place : Place) (s : Text) : Place := s.foldl next place

/-- The code points of a text that stand outside of strings. -/
def bare : Place → Text → Text
  | _, [] => []
  | outside, c :: rest => c :: bare (outside.next c) rest
  | place, c :: rest => bare (place.next c) rest

theorem after_append (place : Place) (front back : Text) :
    place.after (front ++ back) = (place.after front).after back :=
  List.foldl_append

theorem bare_append (back : Text) : ∀ (front : Text) (place : Place),
    place.bare (front ++ back) = place.bare front ++ (place.after front).bare back := by
  intro front
  induction front with
  | nil => intro place; cases place <;> rfl
  | cons c rest ih =>
      intro place
      cases place with
      | outside => exact congrArg (c :: ·) (ih _)
      | inside => exact ih _
      | escaped => exact ih _

end Place

def IsClosed (s : Text) : Prop := Place.outside.after s = .outside

instance (s : Text) : Decidable (IsClosed s) :=
  inferInstanceAs (Decidable (Place.outside.after s = .outside))

theorem IsClosed.append {front back : Text} (closed : IsClosed front) (ends : IsClosed back) :
    IsClosed (front ++ back) := by
  rw [IsClosed, Place.after_append, closed, ends]

theorem IsClosed.bare_append {front : Text} (closed : IsClosed front) (back : Text) :
    Place.outside.bare (front ++ back) = Place.outside.bare front ++ Place.outside.bare back := by
  rw [Place.bare_append, closed]

theorem isClosed_nil : IsClosed [] := rfl

theorem isClosed_of_noQuote : ∀ {s : Text}, (∀ c ∈ s, c ≠ CodePoint.ofChar '"') → IsClosed s := by
  intro s
  induction s with
  | nil => intro _; rfl
  | cons c rest ih =>
      intro noQuote
      have stays : Place.outside.next c = .outside := if_neg (noQuote c List.mem_cons_self)
      rw [IsClosed, Place.after, List.foldl_cons, stays]
      exact ih fun d member => noQuote d (List.mem_cons_of_mem _ member)

theorem bare_of_noQuote : ∀ {s : Text}, (∀ c ∈ s, c ≠ CodePoint.ofChar '"') →
    Place.outside.bare s = s := by
  intro s
  induction s with
  | nil => intro _; rfl
  | cons c rest ih =>
      intro noQuote
      have stays : Place.outside.next c = .outside := if_neg (noQuote c List.mem_cons_self)
      rw [Place.bare, stays, ih fun d member => noQuote d (List.mem_cons_of_mem _ member)]

theorem holds_joined {P : Text → Prop} (nil : P [])
    (append : ∀ {front back : Text}, P front → P back → P (front ++ back)) {separator : Text}
    (apart : P separator) : ∀ {parts : List Text}, (∀ part ∈ parts, P part) →
      P (Text.joined separator parts) := by
  intro parts
  induction parts with
  | nil => intro _; exact nil
  | cons part others ih =>
      intro each
      have first := each part List.mem_cons_self
      have later := ih fun other member => each other (List.mem_cons_of_mem _ member)
      by_cases single : others = []
      · rw [single, Text.joined, List.intercalate_singleton]
        exact first
      · have split := @JsonReader.joined_cons separator part others single []
        rw [List.append_nil, List.append_nil] at split
        rw [split]
        exact append first (append apart later)

theorem mem_bare_joined {separator : Text} (apart : IsClosed separator) {c : CodePoint}
    {part : Text} (bare : c ∈ Place.outside.bare part) : ∀ {parts : List Text},
    (∀ part ∈ parts, IsClosed part) → part ∈ parts →
      c ∈ Place.outside.bare (Text.joined separator parts) := by
  intro parts
  induction parts with
  | nil => intro _ none; cases none
  | cons first others ih =>
      intro each member
      by_cases single : others = []
      · rw [single, List.mem_singleton] at member
        rw [single, Text.joined, List.intercalate_singleton, ← member]
        exact bare
      · have split := @JsonReader.joined_cons separator first others single []
        rw [List.append_nil, List.append_nil] at split
        rw [split, (each first List.mem_cons_self).bare_append, apart.bare_append]
        rcases List.mem_cons.mp member with rfl | later
        · exact List.mem_append_left _ bare
        · have inside := ih (fun other isOther => each other (List.mem_cons_of_mem _ isOther)) later
          exact List.mem_append_right _ (List.mem_append_right _ inside)

/-! ## Strings -/

/-- Nothing in the text ends the string that it stands in, or is seen outside of it. -/
structure StaysInside (s : Text) : Prop where
  after : Place.inside.after s = .inside
  bare : Place.inside.bare s = []

theorem staysInside_of_plain : ∀ {s : Text},
    (∀ c ∈ s, c ≠ CodePoint.ofChar '"' ∧ c ≠ CodePoint.ofChar '\\') → StaysInside s := by
  intro s
  induction s with
  | nil => intro _; exact ⟨rfl, rfl⟩
  | cons c rest ih =>
      intro plain
      obtain ⟨noQuote, noBackslash⟩ := plain c List.mem_cons_self
      have stays : Place.inside.next c = .inside := by
        rw [Place.next, if_neg noQuote, if_neg noBackslash]
      have later := ih fun d member => plain d (List.mem_cons_of_mem _ member)
      refine ⟨?_, ?_⟩
      · rw [Place.after, List.foldl_cons, stays]
        exact later.after
      · change (Place.inside.next c).bare rest = []
        rw [stays, later.bare]

theorem IsCharacter.staysInside {character : Text} (isCharacter : IsCharacter character) :
    StaysInside character := by
  cases isCharacter with
  | plain visible noQuote noBackslash =>
      exact staysInside_of_plain fun d member =>
        List.mem_singleton.mp member ▸ ⟨noQuote, noBackslash⟩
  | escape isLetter => exact ⟨rfl, rfl⟩
  | @byNumber digits four each =>
      have plain : StaysInside digits := staysInside_of_plain fun c member => by
        have isDigit := each c member
        refine ⟨?_, ?_⟩
        · rintro rfl
          cases isDigit
        · rintro rfl
          cases isDigit
      exact ⟨plain.after, plain.bare⟩

theorem staysInside_flatten : ∀ {characters : List Text},
    (∀ character ∈ characters, StaysInside character) → StaysInside characters.flatten := by
  intro characters
  induction characters with
  | nil => intro _; exact ⟨rfl, rfl⟩
  | cons first others ih =>
      intro each
      have here := each first List.mem_cons_self
      have later := ih fun other member => each other (List.mem_cons_of_mem _ member)
      rw [List.flatten_cons]
      refine ⟨?_, ?_⟩
      · rw [Place.after_append, here.after, later.after]
      · rw [Place.bare_append, here.bare, here.after, later.bare, List.nil_append]

theorem IsString.isClosed {s : Text} (isString : IsString s) :
    IsClosed s ∧ Place.outside.bare s = [CodePoint.ofChar '"'] := by
  cases isString with
  | intro each =>
      have inner := staysInside_flatten fun character member => (each character member).staysInside
      have opens : Place.outside.next (CodePoint.ofChar '"') = .inside := rfl
      refine ⟨?_, ?_⟩
      · rw [IsClosed, Place.after, List.foldl_cons, opens, ← Place.after, Place.after_append,
          inner.after]
        rfl
      · rw [Place.bare, opens, Place.bare_append, inner.bare, inner.after]
        rfl

/-! ## What JSON texts hold outside of strings -/

/-- The letters that the words for numbers that are not finite begin with. -/
def constantLetters : List CodePoint := ['N', 'I']

structure IsStrict (s : Text) : Prop where
  closed : IsClosed s
  plain : ∀ c ∈ Place.outside.bare s, c ∉ constantLetters

theorem isStrict_of_plain {s : Text}
    (plain : ∀ c ∈ s, c ≠ CodePoint.ofChar '"' ∧ c ∉ constantLetters) : IsStrict s := by
  have noQuote := fun c member => (plain c member).1
  refine ⟨isClosed_of_noQuote noQuote, ?_⟩
  rw [bare_of_noQuote noQuote]
  exact fun c member => (plain c member).2

theorem IsStrict.append {front back : Text} (first : IsStrict front) (second : IsStrict back) :
    IsStrict (front ++ back) := by
  refine ⟨first.closed.append second.closed, ?_⟩
  rw [first.closed.bare_append]
  intro c member
  rcases List.mem_append.mp member with inFront | inBack
  · exact first.plain c inFront
  · exact second.plain c inBack

theorem IsStrict.cons {mark : CodePoint} {s : Text} (strict : IsStrict s)
    (plain : mark ≠ CodePoint.ofChar '"' ∧ mark ∉ constantLetters) : IsStrict (mark :: s) := by
  have single : IsStrict [mark] :=
    isStrict_of_plain fun c member => List.mem_singleton.mp member ▸ plain
  exact single.append strict

theorem isStrict_blank {blanks : Text} (blank : IsBlank blanks) : IsStrict blanks := by
  refine isStrict_of_plain fun c member => ?_
  rcases JsonReader.eq_of_isSpace (blank c member) with rfl | rfl | rfl | rfl
  all_goals decide

theorem isStrict_nil : IsStrict [] := ⟨rfl, nofun⟩

theorem isStrict_number {s : Text} (isNumber : IsNumber s) : IsStrict s := by
  have digits {run : Text} (each : ∀ c ∈ run, c.isAsciiDigit = true) : IsStrict run := by
    refine isStrict_of_plain fun c member => ?_
    have isDigit := each c member
    refine ⟨?_, ?_⟩
    · rintro rfl
      cases isDigit
    · simp only [constantLetters, List.mem_cons, List.not_mem_nil, or_false]
      rintro (rfl | rfl)
      all_goals cases isDigit
  cases isNumber with
  | @intro negative whole fraction exponent isWhole isFraction isExponent =>
      have first : IsStrict fraction := by
        cases isFraction with
        | none => exact isStrict_nil
        | digits nonempty each => exact (digits each).cons (by decide)
      have second : IsStrict exponent := by
        cases isExponent with
        | none => exact isStrict_nil
        | digits isMark isSign nonempty each =>
            simp only [exponentMarks, List.mem_cons, List.not_mem_nil, or_false] at isMark
            have signs : ∀ sign ∈ exponentSigns, IsStrict sign := by
              intro sign member
              refine isStrict_of_plain ?_
              revert sign
              decide
            rcases isMark with rfl | rfl
            all_goals exact ((signs _ isSign).append (digits each)).cons (by decide)
      have unsigned := (digits isWhole.digits).append (first.append second)
      cases negative with
      | true => exact unsigned.cons (by decide)
      | false => exact unsigned

theorem isStrict_string {s : Text} (isString : IsString s) : IsStrict s := by
  obtain ⟨closed, bare⟩ := isString.isClosed
  refine ⟨closed, ?_⟩
  rw [bare]
  intro c member
  rw [List.mem_singleton.mp member]
  decide

theorem isStrict_listed {α : Type} {write : α → Text} {items : List (Padded α)}
    (padded : ∀ item ∈ items, item.IsPadded) (each : ∀ item ∈ items, IsStrict (write item.core)) :
    IsStrict (Padded.listed write items) := by
  have comma : IsStrict [CodePoint.ofChar ','] := isStrict_nil.cons (by decide)
  refine holds_joined isStrict_nil IsStrict.append comma ?_
  refine List.forall_mem_map.mpr fun item member => ?_
  obtain ⟨before, after⟩ := padded item member
  exact ((isStrict_blank before).append (each item member)).append (isStrict_blank after)

theorem IsValue.isStrict {s : Text} (isValue : IsValue s) : IsStrict s := by
  have closing (c : CodePoint) (plain : c ≠ CodePoint.ofChar '"' ∧ c ∉ constantLetters) :
      IsStrict [c] := isStrict_nil.cons plain
  induction isValue with
  | null => exact isStrict_of_plain (by decide)
  | true => exact isStrict_of_plain (by decide)
  | false => exact isStrict_of_plain (by decide)
  | number isNumber => exact isStrict_number isNumber
  | string isString => exact isStrict_string isString
  | noItems blank =>
      exact ((isStrict_blank blank).append (closing _ (by decide))).cons (by decide)
  | array padded _ ih =>
      exact ((isStrict_listed padded ih).append (closing _ (by decide))).cons (by decide)
  | noMembers blank =>
      exact ((isStrict_blank blank).append (closing _ (by decide))).cons (by decide)
  | object padded named _ ih =>
      refine ((isStrict_listed padded ?_).append (closing _ (by decide))).cons (by decide)
      intro member isMember
      obtain ⟨name, afterName, beforeValue⟩ := named member isMember
      have value := (isStrict_blank beforeValue).append (ih member isMember)
      exact ((isStrict_string name).append (isStrict_blank afterName)).append
        (value.cons (by decide))

theorem IsJsonText.isStrict {s : Text} (isText : IsJsonText s) : IsStrict s := by
  obtain ⟨before, value, after, blank, isValue, closingBlank, rfl⟩ := isText
  exact ((isStrict_blank blank).append isValue.isStrict).append (isStrict_blank closingBlank)

/-! ## Written values -/

section Enclosed

variable {style : Style}

theorem isClosed_lineStart (style : Style) (level : Nat) : IsClosed (style.lineStart level) :=
  (isStrict_blank (JsonReader.isBlank_lineStart style level)).closed

theorem isClosed_cons {c : CodePoint} (noQuote : c ≠ CodePoint.ofChar '"') {s : Text}
    (closed : IsClosed s) : IsClosed (c :: s) := by
  have single : IsClosed [c] :=
    isClosed_of_noQuote fun _ member => List.mem_singleton.mp member ▸ noQuote
  exact single.append closed

theorem bare_cons {c : CodePoint} (noQuote : c ≠ CodePoint.ofChar '"') (s : Text) :
    Place.outside.bare (c :: s) = c :: Place.outside.bare s := by
  rw [Place.bare, Place.next, if_neg noQuote]

variable (itemMark : style.itemMark = text ",") (level : Nat) {opening closing : CodePoint}
  (opens : opening ≠ CodePoint.ofChar '"') (closes : closing ≠ CodePoint.ofChar '"')
  {parts : List Text} (each : ∀ part ∈ parts, IsClosed part)

theorem isClosed_separator (itemMark : style.itemMark = text ",") (level : Nat) :
    IsClosed (style.itemMark ++ style.lineStart level) := by
  rw [itemMark]
  exact isClosed_cons (by decide) (isClosed_lineStart style level)

include itemMark opens closes each

theorem isClosed_enclosed : IsClosed (style.enclosed level opening closing parts) := by
  have last : IsClosed [closing] := isClosed_cons closes isClosed_nil
  by_cases empty : parts = []
  · rw [empty]
    exact isClosed_cons opens last
  · have whole := @JsonReader.enclosed_append style _ empty level opening closing []
    rw [List.append_nil] at whole
    rw [whole]
    have inner := holds_joined isClosed_nil IsClosed.append
      (isClosed_separator itemMark (level + 1)) each
    exact isClosed_cons opens ((isClosed_lineStart style _).append
      (inner.append ((isClosed_lineStart style level).append last)))

omit closes in
theorem mem_bare_enclosed {c : CodePoint} {part : Text} (member : part ∈ parts)
    (bare : c ∈ Place.outside.bare part) :
    c ∈ Place.outside.bare (style.enclosed level opening closing parts) := by
  have whole := @JsonReader.enclosed_append style _ (List.ne_nil_of_mem member) level opening
    closing []
  have separator := isClosed_separator itemMark (level + 1)
  have inner := holds_joined isClosed_nil IsClosed.append separator each
  rw [List.append_nil] at whole
  rw [whole, bare_cons opens, (isClosed_lineStart style _).bare_append, inner.bare_append]
  exact List.mem_cons_of_mem _ (List.mem_append_right _
    (List.mem_append_left _ (mem_bare_joined separator bare each member)))

end Enclosed

section Members

variable {style : Style} (isJson : IsJsonStyle style) {write : Json → Text} (member : Text × Json)

include isJson

theorem exists_memberText : ∃ front, IsClosed front ∧
    JsonReader.memberText style.nameMark write member = front ++ write member.2 := by
  obtain ⟨blanks, nameMark, blank⟩ := isJson.nameMark
  refine ⟨Json.stringText false member.1 ++ style.nameMark, ?_, rfl⟩
  rw [nameMark]
  exact (isString_stringText member.1).isClosed.1.append
    (isClosed_cons (by decide) (isStrict_blank blank).closed)

theorem isClosed_memberText (closed : IsClosed (write member.2)) :
    IsClosed (JsonReader.memberText style.nameMark write member) := by
  obtain ⟨front, before, written⟩ := exists_memberText isJson member
  rw [written]
  exact before.append closed

theorem mem_bare_memberText {c : CodePoint} (bare : c ∈ Place.outside.bare (write member.2)) :
    c ∈ Place.outside.bare (JsonReader.memberText style.nameMark write member) := by
  obtain ⟨front, before, written⟩ := exists_memberText isJson member
  rw [written, before.bare_append]
  exact List.mem_append_right _ bare

end Members

end JsonGrammar

namespace Json

open JsonGrammar (IsClosed IsJsonText Place constantLetters)

variable {style : Style} (isJson : JsonReader.IsJsonStyle style)

include isJson

theorem isClosed_write (v : Json) : ∀ level : Nat, IsClosed (write style level v) := by
  induction v using byParts with
  | null | bool b | integer n | string s =>
      intro level
      exact (isValue_write isJson _ level rfl).isStrict.closed
  | float x =>
      intro level
      by_cases finite : x.isFinite = true
      · exact (isValue_write isJson (float x) level finite).isStrict.closed
      · rw [write, isJson.floats]
        cases x with
        | nan => decide
        | infinite negative => cases negative <;> decide
        | finite negative rank => exact absurd rfl finite
  | array items ih =>
      intro level
      rw [write, JsonReader.writeItems_eq_map]
      exact JsonGrammar.isClosed_enclosed isJson.itemMark level (by decide) (by decide)
        (List.forall_mem_map.mpr fun item member => ih item member (level + 1))
  | object members ih =>
      intro level
      rw [write, JsonReader.writeMembers_eq_map isJson.string]
      exact JsonGrammar.isClosed_enclosed isJson.itemMark level (by decide) (by decide)
        (List.forall_mem_map.mpr fun member isMember =>
          JsonGrammar.isClosed_memberText isJson member (ih member isMember (level + 1)))

/-- The word for a number that is not finite stands outside of strings. -/
theorem exists_constant_of_not_finite (v : Json) : ∀ level : Nat, v.isFinite ≠ true →
    ∃ c ∈ constantLetters, c ∈ Place.outside.bare (write style level v) := by
  induction v using byParts with
  | null | bool b | integer n | string s => exact fun level infinite => absurd rfl infinite
  | float x =>
      intro level infinite
      rw [write, isJson.floats]
      -- The words are NaN, Infinity and -Infinity.
      cases x with
      | nan => exact ⟨CodePoint.ofChar 'N', by decide, by decide⟩
      | infinite negative =>
          refine ⟨CodePoint.ofChar 'I', by decide, ?_⟩
          cases negative <;> decide
      | finite negative rank => exact absurd rfl infinite
  | array items ih =>
      intro level infinite
      have some := mt (itemsFinite_iff items).mpr infinite
      push Not at some
      obtain ⟨item, member, infinite⟩ := some
      obtain ⟨c, isLetter, bare⟩ := ih item member (level + 1) infinite
      refine ⟨c, isLetter, ?_⟩
      rw [write, JsonReader.writeItems_eq_map]
      exact JsonGrammar.mem_bare_enclosed isJson.itemMark level (by decide)
        (List.forall_mem_map.mpr fun item _ => isClosed_write isJson item (level + 1))
        (List.mem_map_of_mem member) bare
  | object members ih =>
      intro level infinite
      have some := mt (membersFinite_iff members).mpr infinite
      push Not at some
      obtain ⟨member, isMember, infinite⟩ := some
      obtain ⟨c, isLetter, bare⟩ := ih member isMember (level + 1) infinite
      refine ⟨c, isLetter, ?_⟩
      rw [write, JsonReader.writeMembers_eq_map isJson.string]
      exact JsonGrammar.mem_bare_enclosed isJson.itemMark level (by decide)
        (List.forall_mem_map.mpr fun other _ =>
          JsonGrammar.isClosed_memberText isJson other (isClosed_write isJson other.2 (level + 1)))
        (List.mem_map_of_mem isMember) (JsonGrammar.mem_bare_memberText isJson member bare)

/-- The text of a value is JSON exactly when all numbers in the value are finite. -/
theorem isJsonText_write_iff (level : Nat) (v : Json) :
    IsJsonText (write style level v) ↔ v.isFinite = true := by
  constructor
  · intro isText
    by_contra infinite
    obtain ⟨c, isLetter, bare⟩ := exists_constant_of_not_finite isJson v level infinite
    exact isText.isStrict.plain c bare isLetter
  · intro finite
    refine ⟨[], write style level v, [], nofun, isValue_write isJson v level finite, nofun, ?_⟩
    rw [List.nil_append, List.append_nil]

end Json

end SearchShell
