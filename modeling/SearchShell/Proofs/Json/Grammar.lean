import SearchShell.Proofs.Json.Proper

/-!
# The grammar of JSON

What is a JSON text in the strict sense, without words for numbers that are not finite.  A value
that holds finite numbers only is written as such a text.
-/

set_option autoImplicit false

namespace SearchShell

namespace JsonGrammar

open JsonReader (IsBlank IsWhole IsJsonStyle isSpace)
open Json (Style)

/-! ## Numbers -/

inductive IsFraction : Text → Prop
  | none : IsFraction []
  | digits {digits : Text} (nonempty : digits ≠ []) (each : ∀ c ∈ digits, c.isAsciiDigit = true) :
      IsFraction (CodePoint.ofChar '.' :: digits)

def exponentMarks : List CodePoint := ['e', 'E']

def exponentSigns : List Text := [[], text "+", text "-"]

inductive IsExponent : Text → Prop
  | none : IsExponent []
  | digits {mark : CodePoint} {sign digits : Text} (isMark : mark ∈ exponentMarks)
      (isSign : sign ∈ exponentSigns) (nonempty : digits ≠ [])
      (each : ∀ c ∈ digits, c.isAsciiDigit = true) : IsExponent (mark :: (sign ++ digits))

inductive IsNumber : Text → Prop
  | intro (negative : Bool) {whole fraction exponent : Text} (isWhole : IsWhole whole)
      (isFraction : IsFraction fraction) (isExponent : IsExponent exponent) :
      IsNumber (Text.signed negative (whole ++ (fraction ++ exponent)))

/-! ## Strings -/

def escapeLetters : List CodePoint := ['"', '\\', '/', 'b', 'f', 'n', 'r', 't']

inductive IsCharacter : Text → Prop
  | plain {c : CodePoint} (visible : 0x20 ≤ c.val) (noQuote : c ≠ CodePoint.ofChar '"')
      (noBackslash : c ≠ CodePoint.ofChar '\\') : IsCharacter [c]
  | escape {letter : CodePoint} (isLetter : letter ∈ escapeLetters) :
      IsCharacter [CodePoint.ofChar '\\', letter]
  | byNumber {digits : Text} (four : digits.length = 4)
      (each : ∀ c ∈ digits, c.hexValue?.isSome = true) :
      IsCharacter (CodePoint.ofChar '\\' :: CodePoint.ofChar 'u' :: digits)

inductive IsString : Text → Prop
  | intro {characters : List Text} (each : ∀ character ∈ characters, IsCharacter character) :
      IsString (CodePoint.ofChar '"' :: (characters.flatten ++ [CodePoint.ofChar '"']))

/-! ## Collections -/

structure Padded (α : Type) where
  before : Text
  core : α
  after : Text

namespace Padded

variable {α : Type}

def IsPadded (padded : Padded α) : Prop := IsBlank padded.before ∧ IsBlank padded.after

def text (write : α → Text) (padded : Padded α) : Text :=
  padded.before ++ write padded.core ++ padded.after

def listed (write : α → Text) (items : List (Padded α)) : Text :=
  Text.joined [CodePoint.ofChar ','] (items.map (text write))

end Padded

structure Pair where
  name : Text
  afterName : Text
  beforeValue : Text
  value : Text

namespace Pair

def text (pair : Pair) : Text :=
  pair.name ++ pair.afterName ++ CodePoint.ofChar ':' :: (pair.beforeValue ++ pair.value)

structure IsNamed (pair : Pair) : Prop where
  name : IsString pair.name
  afterName : IsBlank pair.afterName
  beforeValue : IsBlank pair.beforeValue

end Pair

/-! ## Values -/

inductive IsValue : Text → Prop
  | null : IsValue (text "null")
  | true : IsValue (text "true")
  | false : IsValue (text "false")
  | number {s : Text} (isNumber : IsNumber s) : IsValue s
  | string {s : Text} (isString : IsString s) : IsValue s
  | noItems {blanks : Text} (blank : IsBlank blanks) :
      IsValue (CodePoint.ofChar '[' :: (blanks ++ [CodePoint.ofChar ']']))
  | array {items : List (Padded Text)} (padded : ∀ item ∈ items, item.IsPadded)
      (each : ∀ item ∈ items, IsValue item.core) :
      IsValue (CodePoint.ofChar '[' :: (Padded.listed id items ++ [CodePoint.ofChar ']']))
  | noMembers {blanks : Text} (blank : IsBlank blanks) :
      IsValue (CodePoint.ofChar '{' :: (blanks ++ [CodePoint.ofChar '}']))
  | object {members : List (Padded Pair)} (padded : ∀ member ∈ members, member.IsPadded)
      (named : ∀ member ∈ members, member.core.IsNamed)
      (each : ∀ member ∈ members, IsValue member.core.value) :
      IsValue (CodePoint.ofChar '{' :: (Padded.listed Pair.text members ++ [CodePoint.ofChar '}']))

def IsJsonText (s : Text) : Prop :=
  ∃ before value after, IsBlank before ∧ IsValue value ∧ IsBlank after ∧
    s = before ++ value ++ after

/-! ## Written numbers -/

theorem isNumber_ofInt (n : Int) : IsNumber (Text.ofInt n) := by
  have whole := IsNumber.intro (n < 0) (JsonReader.isWhole_ofNat n.natAbs) .none .none
  rw [List.append_nil, List.append_nil] at whole
  rw [JsonReader.ofInt_eq]
  exact whole

theorem isExponent_exponent (width : Nat) (e : Int) : IsExponent (Text.exponent width e) := by
  have sign : ∃ sign ∈ exponentSigns,
      (if e < 0 then text "e-" else text "e+") =
        CodePoint.ofChar 'e' :: sign := by
    split
    · exact ⟨text "-", by decide, rfl⟩
    · exact ⟨text "+", by decide, rfl⟩
  obtain ⟨sign, isSign, written⟩ := sign
  have digits : ∀ c ∈ Text.zeros (width - (Text.ofNat e.natAbs).length) ++ Text.ofNat e.natAbs,
      c.isAsciiDigit = true := by
    intro c member
    rcases List.mem_append.mp member with zero | digit
    · exact Text.isAsciiDigit_of_mem_zeros zero
    · exact Text.isAsciiDigit_of_mem_ofNat digit
  rw [Text.exponent, written, List.append_assoc, List.cons_append]
  exact .digits (by decide) isSign
    (List.append_ne_nil_of_right_ne_nil _ (Text.ofNat_ne_nil _)) digits

theorem isNumber_ofDecimal {x : Decimal} (plain : x.significand ≠ 0 ∨ x.exponent = 0)
    (negative : Bool) : IsNumber (Text.signed negative (Text.ofDecimal FloatStyle.json x)) := by
  rcases JsonReader.ofDecimal_cases plain with ⟨whole, fraction, written, nonempty, spells⟩ |
    ⟨whole, fraction, leading, written, spells⟩
  · rw [written, ← List.append_nil (_ :: fraction)]
    exact .intro negative spells.isWhole (.digits nonempty spells.digits) .none
  · have isFraction : IsFraction (if fraction.isEmpty then [] else text "." ++ fraction) := by
      split
      · exact .none
      next nonempty => exact .digits (by simpa using nonempty) spells.digits
    rw [written]
    exact .intro negative spells.isWhole isFraction (isExponent_exponent _ leading)

theorem isNumber_ofBinary64 {x : Binary64} (finite : x.isFinite = true) :
    IsNumber (Text.ofBinary64 FloatStyle.json x) := by
  cases x with
  | nan => cases finite
  | infinite negative => cases finite
  | finite negative rank => exact isNumber_ofDecimal (JsonReader.shortest_plain rank) negative

/-! ## Written strings -/

theorem hexDigits_each : ∀ n : Fin 0x20,
    ∀ c ∈ Text.hexDigits 4 n, c.hexValue?.isSome = true := by
  decide

theorem isCharacter_stringPoint (c : CodePoint) : IsCharacter (Json.stringPoint false c) := by
  unfold Json.stringPoint
  repeat' split
  next => exact .escape (by decide)
  next => exact .escape (by decide)
  next => exact .escape (by decide)
  next => exact .escape (by decide)
  next => exact .escape (by decide)
  next => exact .escape (by decide)
  next => exact .escape (by decide)
  next control =>
    have small : c.val < 0x20 := by simpa using control
    rw [Json.numberEscape, if_pos (Nat.lt_trans small (by decide))]
    exact .byNumber rfl (hexDigits_each ⟨c.val, small⟩)
  next noQuote noBackslash _ _ _ _ _ visible =>
    refine .plain ?_ noQuote noBackslash
    simpa using visible

theorem isString_stringText (s : Text) : IsString (Json.stringText false s) := by
  have characters : s.flatMap (Json.stringPoint false) =
      (s.map (Json.stringPoint false)).flatten := List.flatMap_def
  rw [Json.stringText, characters]
  exact .intro (List.forall_mem_map.mpr fun c _ => isCharacter_stringPoint c)

/-! ## Written collections -/

/-- Texts with blanks behind the commas between them are listed between blanks. -/
theorem exists_listed {α : Type} (write : α → Text) {before after : Text} (blank : IsBlank before)
    (closingBlank : IsBlank after) : ∀ {items : List α}, items ≠ [] →
    ∃ padded : List (Padded α), padded.map Padded.core = items ∧
      (∀ item ∈ padded, item.IsPadded) ∧
      before ++ (Text.joined (CodePoint.ofChar ',' :: before) (items.map write) ++ after) =
        Padded.listed write padded := by
  intro items
  induction items with
  | nil => intro nonempty; exact absurd rfl nonempty
  | cons item others ih =>
      intro _
      by_cases single : others = []
      · refine ⟨[⟨before, item, after⟩], by simp [single], ?_, ?_⟩
        · simpa using ⟨blank, closingBlank⟩
        · simp [single, Padded.listed, Padded.text, Text.joined, List.intercalate_singleton]
      · obtain ⟨padded, cores, each, written⟩ := ih single
        have more : padded ≠ [] := by
          rintro rfl
          exact single cores.symm
        refine ⟨⟨before, item, []⟩ :: padded, by simp [cores], ?_, ?_⟩
        · intro other member
          rcases List.mem_cons.mp member with rfl | later
          · exact ⟨blank, List.forall_mem_nil _⟩
          · exact each other later
        · have rest : others.map write ≠ [] := by simpa using single
          rw [List.map_cons, JsonReader.joined_cons rest, Padded.listed, List.map_cons,
            Text.joined_cons_of_ne_nil _ (by simpa using more), ← Padded.listed, ← written]
          simp [Padded.text]

theorem exists_enclosed {α : Type} (write : α → Text) {style : Style}
    (itemMark : style.itemMark = text ",") (level : Nat) (opening closing : CodePoint)
    {items : List α} (nonempty : items ≠ []) :
    ∃ padded : List (Padded α), padded.map Padded.core = items ∧
      (∀ item ∈ padded, item.IsPadded) ∧
      style.enclosed level opening closing (items.map write) =
        opening :: (Padded.listed write padded ++ [closing]) := by
  obtain ⟨padded, cores, each, written⟩ := exists_listed write
    (JsonReader.isBlank_lineStart style (level + 1)) (JsonReader.isBlank_lineStart style level)
    nonempty
  have some : items.map write ≠ [] := by simpa using nonempty
  have whole := @JsonReader.enclosed_append style _ some level opening closing []
  refine ⟨padded, cores, each, ?_⟩
  rw [List.append_nil, itemMark] at whole
  rw [whole, ← written]
  simp [text]

/-- The pair of a member that is written with blanks behind the colon. -/
def pairOf (beforeValue : Text) (write : Json → Text) (member : Text × Json) : Pair :=
  ⟨Json.stringText false member.1, [], beforeValue, write member.2⟩

theorem text_pairOf (beforeValue : Text) (write : Json → Text) (member : Text × Json) :
    (pairOf beforeValue write member).text =
      JsonReader.memberText (CodePoint.ofChar ':' :: beforeValue) write member := by
  simp [pairOf, Pair.text, JsonReader.memberText]

section Collections

variable {style : Style} (isJson : IsJsonStyle style) (level : Nat) {write : Json → Text}

include isJson

theorem isValue_enclosed_items {items : List Json} (each : ∀ item ∈ items, IsValue (write item)) :
    IsValue (style.enclosed level '[' ']' (items.map write)) := by
  by_cases empty : items = []
  · rw [empty]
    exact @IsValue.noItems [] nofun
  have some : items.map write ≠ [] := by simpa using empty
  obtain ⟨padded, cores, isPadded, written⟩ :=
    exists_enclosed id isJson.itemMark level '[' ']' some
  rw [List.map_id] at written
  rw [written]
  refine .array isPadded ?_
  intro item member
  have isItem : item.core ∈ items.map write := cores ▸ List.mem_map_of_mem member
  obtain ⟨value, isValue, same⟩ := List.mem_map.mp isItem
  exact same ▸ each value isValue

theorem isValue_enclosed_members {members : Members}
    (each : ∀ member ∈ members, IsValue (write member.2)) :
    IsValue (style.enclosed level '{' '}'
      (members.map (JsonReader.memberText style.nameMark write))) := by
  by_cases empty : members = []
  · rw [empty]
    exact @IsValue.noMembers [] nofun
  obtain ⟨beforeValue, nameMark, blank⟩ := isJson.nameMark
  have some : members.map (pairOf beforeValue write) ≠ [] := by simpa using empty
  obtain ⟨padded, cores, isPadded, written⟩ :=
    exists_enclosed Pair.text isJson.itemMark level '{' '}' some
  have texts : (members.map (pairOf beforeValue write)).map Pair.text =
      members.map (JsonReader.memberText style.nameMark write) := by
    rw [List.map_map, nameMark]
    exact List.map_congr_left fun member _ => text_pairOf beforeValue write member
  rw [← texts, written]
  have pairs : ∀ item ∈ padded, ∃ member ∈ members,
      pairOf beforeValue write member = item.core := by
    intro item member
    exact List.mem_map.mp (cores ▸ List.mem_map_of_mem member)
  refine .object isPadded ?_ ?_
  · intro item member
    obtain ⟨typed, -, same⟩ := pairs item member
    rw [← same]
    exact ⟨isString_stringText typed.1, nofun, blank⟩
  · intro item member
    obtain ⟨typed, isMember, same⟩ := pairs item member
    rw [← same]
    exact each typed isMember

end Collections

end JsonGrammar

/-! ## Written values -/

namespace Json

theorem itemsFinite_iff : ∀ items : List Json,
    itemsFinite items = true ↔ ∀ item ∈ items, item.isFinite = true := by
  intro items
  induction items with
  | nil => simp [itemsFinite]
  | cons item rest ih => simp [itemsFinite, ih]

theorem isValue_write {style : Style} (isJson : JsonReader.IsJsonStyle style) (v : Json) :
    ∀ level : Nat, v.isFinite = true → JsonGrammar.IsValue (write style level v) := by
  induction v using byParts with
  | null =>
      intro level _
      rw [write, isJson.nullWord]
      exact .null
  | bool b =>
      intro level _
      rw [write, isJson.trueWord, isJson.falseWord]
      cases b with
      | true => exact .true
      | false => exact .false
  | integer n =>
      intro level _
      exact .number (JsonGrammar.isNumber_ofInt n)
  | float x =>
      intro level finite
      rw [write, isJson.floats]
      exact .number (JsonGrammar.isNumber_ofBinary64 finite)
  | string s =>
      intro level _
      rw [write, isJson.string]
      exact .string (JsonGrammar.isString_stringText s)
  | array items ih =>
      intro level finite
      rw [write, JsonReader.writeItems_eq_map]
      exact JsonGrammar.isValue_enclosed_items isJson level fun item member =>
        ih item member (level + 1) ((itemsFinite_iff items).mp finite item member)
  | object members ih =>
      intro level finite
      rw [write, JsonReader.writeMembers_eq_map isJson.string]
      exact JsonGrammar.isValue_enclosed_members isJson level fun member isMember =>
        ih member isMember (level + 1) ((membersFinite_iff members).mp finite member isMember)

end Json

end SearchShell
