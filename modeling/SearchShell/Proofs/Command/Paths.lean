import SearchShell.Proofs.Command.Dispatch
import SearchShell.Proofs.Text.Separated

/-!
# Paths and lists

The segments of a path are what stands between its slashes, and the names of a list what stands
between its commas, however many of these there are.  A path that suits its verb has no segment that
the resource does not name.
-/

set_option autoImplicit false

namespace SearchShell

/-! ## Paths -/

/-- The first segment begins and the last one ends with no blank, so that no blank around a path is
taken from them. -/
structure AreTight (segments : List Text) : Prop where
  led : ∀ first ∈ segments.head?, Text.IsLed first
  closed : ∀ last ∈ segments.getLast?, Text.IsLed last.reverse

/-- Segments with slashes before, between and after them, and blanks around the whole. -/
inductive IsPathOf (segments : List Text) : Text → Prop
  | intro {before body after : Text} (isGap : Text.IsGap before) (alsoGap : Text.IsGap after)
      (separated : Text.IsSeparated '/' segments body) :
      IsPathOf segments (before ++ (body ++ after))

theorem isBlank_slash : (CodePoint.ofChar '/').isBlank = false := by decide

theorem pathSegments_eq_iff (path : Text) (segments : List Text) :
    pathSegments path = segments ↔ Text.IsSeparated '/' segments path.trim :=
  Text.pieces_eq_iff path.trim segments

theorem pathSegments_of_isPathOf {segments : List Text} {path : Text} (tight : AreTight segments)
    (isPath : IsPathOf segments path) : pathSegments path = segments := by
  obtain ⟨isGap, alsoGap, separated⟩ := isPath
  rw [pathSegments_eq_iff, Text.trim_gap_append isGap, Text.trim_append_gap alsoGap,
    Text.trim_of_tight (separated.isTight isBlank_slash tight.led tight.closed)]
  exact separated

theorem Text.IsTight.append_slash_append {p q : Text} (first : p.IsTight) (second : q.IsTight) :
    IsTight (p ++ CodePoint.ofChar '/' :: q) := by
  have slash : IsTight [CodePoint.ofChar '/'] :=
    isTight_of_unbroken (by simpa using isBlank_slash)
  have joined (s : Text) : s ++ [CodePoint.ofChar '/'] ≠ [] :=
    List.append_ne_nil_of_right_ne_nil s (List.cons_ne_nil _ _)
  constructor
  · by_cases none : p = []
    · rw [none]
      exact slash.led.append (List.cons_ne_nil _ _) q
    · exact first.led.append none _
  · by_cases none : q = []
    · rw [none]
      exact isLed_reverse_append slash.closed (List.cons_ne_nil _ _) p
    · rw [List.append_cons]
      exact isLed_reverse_append second.closed none _

theorem pathSegments_append {p q : Text} (first : p.IsTight) (second : q.IsTight) :
    pathSegments (p ++ CodePoint.ofChar '/' :: q) = pathSegments p ++ pathSegments q := by
  simp only [pathSegments, Text.trim_of_tight first, Text.trim_of_tight second,
    Text.trim_of_tight (first.append_slash_append second), Text.pieces_append_cons]

/-! ## Lists -/

theorem listedNames_eq_iff (list : Option Text) (names : List Text) :
    listedNames list = names ↔ Text.IsSeparated ',' names (list.getD []) :=
  Text.pieces_eq_iff (list.getD []) names

theorem listedNames_joined (list : Option Text) :
    listedNames (some (Text.joined (text ",") (listedNames list))) = listedNames list :=
  Text.pieces_joined fun _ => Text.isPiece_of_mem_pieces

/-! ## Resources -/

def Resource.parts (path : Resource) : List Text :=
  path.container.toList ++ path.collection.toList ++ path.documentId.toList

theorem parts_ofSegments (segments : List Text) :
    (Resource.ofSegments segments).parts = segments.take 3 := by
  match segments with
  | [] | [_] | [_, _] | _ :: _ :: _ :: _ => rfl

theorem Verb.le_three_of_admits {verb : Verb} {count : Nat} (admits : verb.admits count = true) :
    count ≤ 3 := by
  cases verb with
  | get | delete | count | search | index =>
      simp only [Verb.admits, decide_eq_true_eq, Bool.or_eq_true] at admits
      omega

theorem documentAddress_of_length_ne {segments : List Text} (unfit : segments.length ≠ 3) :
    DocumentAddress.ofSegments segments = .error (.badPath .document) := by
  unfold DocumentAddress.ofSegments
  split
  next => exact absurd rfl unfit
  next => rfl

/-- A path whose number of segments does not suit the verb is refused, whatever the payload. -/
theorem ofCommand_of_not_admits {verb : Verb} {command : Command}
    (unfit : verb.admits command.segments.length = false) :
    Action.ofCommand verb command = .error (.refused (.badPath verb.pathShape)) := by
  cases verb with
  | get | delete =>
      simp only [Verb.admits, decide_eq_false_iff_not] at unfit
      simp only [Action.ofCommand, documentAddress_of_length_ne unfit]
      rfl
  | count | search =>
      simp only [Verb.admits, decide_eq_false_iff_not] at unfit
      simp only [Action.ofCommand, searchScope_ofSegments, if_neg unfit]
      rfl
  | index =>
      simp only [Verb.admits, Bool.or_eq_false_iff, decide_eq_false_iff_not, ← not_or] at unfit
      simp only [Action.ofCommand, writeTarget_ofSegments, if_neg unfit]
      rfl

def Action.IsAbout (path : Resource) : Action → Prop
  | get address | delete address =>
      path = ⟨some address.index, some address.type, some address.id⟩
  | count scope _ | search scope _ => scope = ⟨path.containers, path.collections⟩
  | index target _ => path = ⟨some target.index, some target.type, target.id⟩

theorem searchScope_eq_ok {segments : List Text} {scope : SearchScope}
    (found : SearchScope.ofSegments segments = .ok scope) :
    let path := Resource.ofSegments segments
    scope = ⟨path.containers, path.collections⟩ := by
  unfold SearchScope.ofSegments at found
  split at found
  · cases found
  · exact (Except.ok.inj found).symm

theorem isAbout_of_ofCommand {verb : Verb} {command : Command} {action : Action}
    (chosen : Action.ofCommand verb command = .ok action) :
    action.IsAbout (Resource.ofSegments command.segments) := by
  cases verb with
  | get | delete =>
      simp only [Action.ofCommand, Outcome.map_eq_ok_iff, Outcome.mapError_eq_ok_iff] at chosen
      obtain ⟨address, found, rfl⟩ := chosen
      rw [documentAddress_eq_ok found]
      rfl
  | count | search =>
      simp only [Action.ofCommand, Outcome.bind_eq_ok_iff, Outcome.mapError_eq_ok_iff] at chosen
      obtain ⟨scope, found, spec, -, same⟩ := chosen
      cases same
      exact searchScope_eq_ok found
  | index =>
      simp only [Action.ofCommand, Outcome.bind_eq_ok_iff, Outcome.mapError_eq_ok_iff] at chosen
      obtain ⟨target, found, document, -, same⟩ := chosen
      cases same
      rw [writeTarget_eq_ok found]
      obtain ⟨index, type, id⟩ := target
      cases id with
      | none => rfl
      | some id => rfl

/-- For every verb and command: a path that is not refused has a number of segments that suits the
verb; with such a number, the resource names all of them in order; and an action is about what the
resource names. -/
theorem resource_keeps_segments (verb : Verb) (command : Command) :
    ((∀ shape, Action.ofCommand verb command ≠ .error (.refused (.badPath shape))) →
      verb.admits command.segments.length = true) ∧
    (verb.admits command.segments.length = true →
      (Resource.ofSegments command.segments).parts = command.segments) ∧
    ∀ action, Action.ofCommand verb command = .ok action →
      action.IsAbout (Resource.ofSegments command.segments) := by
  refine ⟨?_, ?_, fun _ => isAbout_of_ofCommand⟩
  · intro fit
    by_contra unfit
    exact fit _ (ofCommand_of_not_admits (Bool.eq_false_iff.mpr unfit))
  · intro admits
    rw [parts_ofSegments, List.take_of_length_le (Verb.le_three_of_admits admits)]

/-- The segments of a path are the pieces between its slashes, so blanks around it and the number of
slashes between, before and after them make no difference; a path of two paths has the segments of
both.  The names of a list are the pieces between its commas, and stay the same when they are joined
and split once more.  A command whose path suits its verb loses no segment. -/
theorem paths_and_lists_are_split :
    (∀ (path : Text) (segments : List Text),
      pathSegments path = segments ↔ Text.IsSeparated '/' segments path.trim) ∧
    (∀ (segments : List Text) (path : Text), AreTight segments → IsPathOf segments path →
      pathSegments path = segments) ∧
    (∀ p q : Text, p.IsTight → q.IsTight →
      pathSegments (p ++ CodePoint.ofChar '/' :: q) = pathSegments p ++ pathSegments q) ∧
    (∀ path : Resource,
      (∀ names, path.containers = names ↔ Text.IsSeparated ',' names (path.container.getD [])) ∧
      (∀ names, path.collections = names ↔ Text.IsSeparated ',' names (path.collection.getD [])) ∧
      let rejoined : Resource := ⟨some (Text.joined (text ",") path.containers),
        some (Text.joined (text ",") path.collections), path.documentId⟩
      rejoined.containers = path.containers ∧ rejoined.collections = path.collections) ∧
    ∀ (verb : Verb) (command : Command),
      ((∀ shape, Action.ofCommand verb command ≠ .error (.refused (.badPath shape))) →
        verb.admits command.segments.length = true) ∧
      (verb.admits command.segments.length = true →
        (Resource.ofSegments command.segments).parts = command.segments) ∧
      ∀ action, Action.ofCommand verb command = .ok action →
        action.IsAbout (Resource.ofSegments command.segments) := by
  refine ⟨pathSegments_eq_iff, fun _ _ => pathSegments_of_isPathOf, fun _ _ => pathSegments_append,
    fun path => ⟨?_, ?_, ?_, ?_⟩, resource_keeps_segments⟩
  · exact listedNames_eq_iff path.container
  · exact listedNames_eq_iff path.collection
  · exact listedNames_joined path.container
  · exact listedNames_joined path.collection

/-- A path with blanks in its segments and around it, a path of two, and a command whose path suits
its verb. -/
theorem spread_path_is_split :
    let segments := [text "my logs", text " ", text "1"]
    let path := text "\t//my logs/ //1/ "
    let parts := [text "logs", text "event", text "1"]
    let command : Command := ⟨text "get", text "/logs/event/1", none, parts⟩
    let action : Action := .get ⟨text "logs", text "event", text "1"⟩
    (AreTight segments ∧ IsPathOf segments path ∧ pathSegments path = segments) ∧
    ((text "/logs").IsTight ∧ (text "event/1").IsTight ∧
      pathSegments (text "/logs/event/1") = parts) ∧
    (∀ shape, Action.ofCommand .get command ≠ .error (.refused (.badPath shape))) ∧
    Verb.get.admits parts.length = true ∧ (Resource.ofSegments parts).parts = parts ∧
    Action.ofCommand .get command = .ok action ∧ action.IsAbout (Resource.ofSegments parts) := by
  intro segments path parts command action
  obtain ⟨-, written, appended, -, kept⟩ := paths_and_lists_are_split
  have tight : AreTight segments := by
    constructor
    · rintro first ⟨⟩ c ⟨⟩
      decide
    · rintro last ⟨⟩ c ⟨⟩
      decide
  have isPath : IsPathOf segments path := by
    have separated : Text.IsSeparated '/' segments (text "//my logs/ //1/") :=
      (Text.pieces_eq_iff _ _).mp (by decide)
    have before : Text.IsGap (text "\t") := by decide
    have after : Text.IsGap (text " ") := by decide
    exact .intro before after separated
  have first : (text "/logs").IsTight := Text.isTight_of_unbroken (by decide)
  have second : (text "event/1").IsTight := Text.isTight_of_unbroken (by decide)
  have chosen : Action.ofCommand .get command = .ok action := rfl
  have fit (shape : PathShape) :
      Action.ofCommand .get command ≠ .error (.refused (.badPath shape)) := by
    rw [chosen]
    exact nofun
  obtain ⟨admitted, whole, about⟩ := kept .get command
  exact ⟨⟨tight, isPath, written segments path tight isPath⟩,
    ⟨first, second, appended _ _ first second⟩,
    fit, admitted fit, whole (admitted fit), chosen, about action chosen⟩

end SearchShell
