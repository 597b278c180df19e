import SearchShell.Proofs.Engine.Reports
import SearchShell.Proofs.Shell.Turns

/-!
# What the shell does

The shell has the commands that are typed interpreted in order, each once, and shows what comes of
them.  No engine has a part in which commands these are, unless one of them escapes: it is stopped
by something other than the keyboard, or its failure cannot be reported.
-/

set_option autoImplicit false

namespace SearchShell

/-- What leaves the interpreter and ends the shell before its time: the program is to end, or the
text of a rejection cannot be read. -/
def Abort.Escapes : Abort → Prop
  | .interruption stop => stop.cause ≠ .keyboard
  | .fault (.rejected received) => ∀ content, received.response.content ≠ .ok content
  | .fault _ => False

def IsContained (executed : Except Abort Envelope) : Prop :=
  ∀ abort, executed = .error abort → ¬abort.Escapes

section Interpretation

variable {σ : Type}

def visits (engine : Engine σ) : List Text → σ → List (Text × σ)
  | [], _ => []
  | line :: rest, state =>
      (line, state) :: visits engine rest (Engine.interpret engine line state).state

theorem Abort.isLocal_iff (stop : Interruption) :
    (Abort.interruption stop).isLocal = true ↔ stop.cause = .keyboard := by
  obtain ⟨cause, message⟩ := stop
  cases cause with
  | keyboard => exact iff_of_true rfl rfl
  | termination name => exact iff_of_false Bool.false_ne_true nofun

/-- Only an answer that is none is shown by no envelope, and it is no stop from the keyboard. -/
theorem Fault.escapes_iff (fault : Fault) :
    (Abort.fault fault).Escapes ↔ ∃ abort, fault.answer = .error abort ∧ abort.isLocal = false := by
  have answered (envelope : Envelope) : ¬∃ abort,
      (.ok envelope : Except Abort Envelope) = .error abort ∧ abort.isLocal = false := by
    rintro ⟨abort, none, -⟩
    cases none
  cases fault with
  | rejected received =>
      simp only [Abort.Escapes, Connection.answer_rejected]
      cases received.response.content with
      | ok content =>
          exact iff_of_false (fun unreadable => unreadable content rfl) (answered _)
      | error unreadable => exact iff_of_true (fun content => nofun) ⟨_, rfl, rfl⟩
  | refused refusal => exact iff_of_false id (answered _)
  | _ =>
      rw [Fault.answer_of_isPlain rfl]
      exact iff_of_false id (answered _)

def ending? : Except Abort Envelope → Option Abort
  | .ok _ => none
  | .error abort => if abort.isLocal then none else some abort

theorem ending?_interpret_eq_none_iff (engine : Engine σ) (line : Text) (state : σ) :
    ending? (Engine.interpret engine line state).outcome = none ↔
      IsContained (Engine.execute engine line state).outcome := by
  rw [Engine.interpret_outcome_eq]
  cases (Engine.execute engine line state).outcome with
  | ok envelope => exact iff_of_true rfl nofun
  | error abort =>
      simp only [IsContained, Except.error.injEq, forall_eq']
      cases abort with
      | interruption stop =>
          simp only [ending?, Abort.Escapes, ne_eq, not_not, ← Abort.isLocal_iff,
            ite_eq_left_iff, reduceCtorEq, imp_false, not_not]
      | fault fault =>
          rw [Fault.escapes_iff]
          change ending? fault.answer = none ↔ _
          cases fault.answer with
          | ok envelope => exact iff_of_true rfl nofun
          | error abort => simp [ending?]

end Interpretation

namespace Shell

variable {σ : Type}

def noting (interpret : Text → σ → Execution σ Abort Envelope) (line : Text)
    (state : σ × List Text) : Execution (σ × List Text) Abort Envelope :=
  let done := interpret line state.1
  ⟨done.outcome, done.log, (done.state, state.2 ++ [line])⟩

section Noting

variable (interpret : Text → σ → Execution σ Abort Envelope) (line : Text) (state : σ × List Text)

@[simp] theorem noting_outcome :
    (noting interpret line state).outcome = (interpret line state.1).outcome := rfl

@[simp] theorem noting_state : (noting interpret line state).state =
    ((interpret line state.1).state, state.2 ++ [line]) := rfl

@[simp] theorem commandEvents_noting :
    commandEvents (noting interpret line state) = commandEvents (interpret line state.1) := rfl

end Noting

/-- What is shown before and after a reading that gives the interpreter nothing. -/
def idleEvents (reading : CommandReading) : List Event :=
  .output reading.prompts :: if reading.result = .interrupted then [.output (text "\n")] else []

def transcript : List CommandReading → List (Execution σ Abort Envelope) → List Event
  | [], _ => []
  | turn :: later, dones => match turn.line?, dones with
      | some _, done :: others =>
          .output turn.prompts :: commandEvents done ++ transcript later others
      | _, dones => idleEvents turn ++ transcript later dones

def farewell (last : CommandReading) : List Event :=
  .output last.prompts :: if last.result = .ended then [.output (text "\n")] else []

/-! ## One turn -/

section Turn

variable (interpret : Text → σ → Execution σ Abort Envelope) {input : List InputEvent} (state : σ)
  (fuel : Nat)

theorem runWithin_of_isLast (isLast : (nextCommand input).isLast = true) :
    runWithin interpret (fuel + 1) input state =
      { events := farewell (nextCommand input), state := state } := by
  cases result : (nextCommand input).result with
  | interrupted => simp only [CommandReading.isLast, result, Bool.false_eq_true] at isLast
  | ended => simp only [runWithin, result, farewell, if_true]
  | command typed =>
      simp only [CommandReading.isLast, result] at isLast
      have some : typed.trim.isEmpty = false := by
        cases empty : typed.trim with
        | nil =>
            rw [empty] at isLast
            exact absurd isLast (by decide)
        | cons => rfl
      simp only [runWithin, result, some, isExit_eq, isLast, farewell, Bool.false_eq_true, if_true,
        if_false, reduceCtorEq]

variable (goesOn : (nextCommand input).isLast = false)

include goesOn

theorem runWithin_of_idle (idle : (nextCommand input).line? = none) :
    runWithin interpret (fuel + 1) input state =
      (runWithin interpret fuel (nextCommand input).rest state).after
        (idleEvents (nextCommand input)) := by
  cases result : (nextCommand input).result with
  | ended => simp only [CommandReading.isLast, result, Bool.true_eq_false] at goesOn
  | interrupted => simp only [runWithin, result, idleEvents, if_true]
  | command typed =>
      have blank : typed.trim.isEmpty = true := by
        simpa [CommandReading.line?, result] using idle
      simp only [runWithin, result, idleEvents, blank, if_true, reduceCtorEq, if_false]

/-- A command that is typed is interpreted, and the shell goes on if only that command can be what
was given up. -/
theorem runWithin_of_line {line : Text} (typed : (nextCommand input).line? = some line) :
    runWithin interpret (fuel + 1) input state =
      let done := interpret line state
      let events := .output (nextCommand input).prompts :: commandEvents done
      match ending? done.outcome with
      | none => (runWithin interpret fuel (nextCommand input).rest done.state).after events
      | some abort => ⟨events, done.state, some abort⟩ := by
  cases result : (nextCommand input).result with
  | ended | interrupted => simp only [CommandReading.line?, result, reduceCtorEq] at typed
  | command s =>
      simp only [CommandReading.line?, result, Option.ite_none_left_eq_some, Option.some.injEq]
        at typed
      obtain ⟨some, rfl⟩ := typed
      simp only [CommandReading.isLast, result] at goesOn
      simp only [runWithin, result, some, isExit_eq, goesOn, if_false, Bool.false_eq_true]
      cases (interpret s.trim state).outcome with
      | ok envelope => rfl
      | error abort =>
          cases isLocal : abort.isLocal with
          | true => simp [ending?, isLocal]
          | false => simp [ending?, isLocal]

end Turn

/-! ## Runs -/

section Runs

variable (interpret : Text → σ → Execution σ Abort Envelope)

/-- Noting the lines changes nothing else about a run. -/
theorem runWithin_noting : ∀ (fuel : Nat) (input : List InputEvent) (state : σ)
    (lines : List Text),
    let noted := runWithin (noting interpret) fuel input (state, lines)
    let run := runWithin interpret fuel input state
    noted.events = run.events ∧ noted.abort = run.abort ∧ noted.state.1 = run.state := by
  intro fuel
  induction fuel with
  | zero => exact fun _ _ _ => ⟨rfl, rfl, rfl⟩
  | succ fuel ih =>
      intro input state lines
      cases goesOn : (nextCommand input).isLast with
      | true =>
          rw [runWithin_of_isLast _ _ fuel goesOn, runWithin_of_isLast _ _ fuel goesOn]
          exact ⟨rfl, rfl, rfl⟩
      | false =>
          cases typed : (nextCommand input).line? with
          | none =>
              obtain ⟨events, abort, final⟩ := ih (nextCommand input).rest state lines
              rw [runWithin_of_idle _ _ fuel goesOn typed, runWithin_of_idle _ _ fuel goesOn typed]
              exact ⟨congrArg (idleEvents (nextCommand input) ++ ·) events, abort, final⟩
          | some line =>
              obtain ⟨events, abort, final⟩ :=
                ih (nextCommand input).rest (interpret line state).state (lines ++ [line])
              rw [runWithin_of_line _ _ fuel goesOn typed, runWithin_of_line _ _ fuel goesOn typed]
              simp only [noting_outcome, noting_state, commandEvents_noting]
              split
              · refine ⟨?_, abort, final⟩
                simp only [Run.after, events]
              · exact ⟨rfl, rfl, rfl⟩

variable {input : List InputEvent} {turns : List CommandReading} {last : CommandReading}
  (isRead : IsReadIn input turns last)

include isRead

/-- More turns than there are to take change nothing. -/
theorem runWithin_enough : ∀ (fuel : Nat) (state : σ), turns.length < fuel →
    runWithin interpret fuel input state =
      runWithin interpret (turns.length + 1) input state := by
  induction isRead with
  | last isLast =>
      intro fuel state enough
      obtain ⟨fuel, rfl⟩ : ∃ more, fuel = more + 1 := ⟨fuel - 1, by omega⟩
      rw [runWithin_of_isLast interpret state fuel isLast,
        runWithin_of_isLast interpret state _ isLast]
  | @turn input turns last goesOn later ih =>
      intro fuel state enough
      obtain ⟨fuel, rfl⟩ : ∃ more, fuel = more + 1 := ⟨fuel - 1, by omega⟩
      rw [List.length_cons] at enough ⊢
      have fewer : turns.length < fuel := by omega
      cases typed : (nextCommand input).line? with
      | none =>
          rw [runWithin_of_idle interpret state _ goesOn typed,
            runWithin_of_idle interpret state _ goesOn typed, ih fuel state fewer]
      | some line =>
          rw [runWithin_of_line interpret state _ goesOn typed,
            runWithin_of_line interpret state _ goesOn typed]
          simp only [ih fuel _ fewer]

end Runs

section Engines

variable (engine : Engine σ) {input : List InputEvent} {turns : List CommandReading}
  {last : CommandReading} (isRead : IsReadIn input turns last)

include isRead

/-- If no command escapes, all are interpreted, and their executions are shown. -/
theorem runWithin_of_contained : ∀ (fuel : Nat) (state : σ) (lines : List Text),
    turns.length < fuel →
    (∀ visit ∈ visits engine (typedLines turns) state,
      IsContained (Engine.execute engine visit.1 visit.2).outcome) →
    let run := runWithin (noting (Engine.interpret engine)) fuel input (state, lines)
    run.events = transcript turns (Engine.interpretAll engine (typedLines turns) state) ++
        farewell last ∧
      run.state.2 = lines ++ typedLines turns ∧ run.abort = none := by
  induction isRead with
  | last isLast =>
      intro fuel state lines enough _
      obtain ⟨fuel, rfl⟩ : ∃ more, fuel = more + 1 := ⟨fuel - 1, by omega⟩
      rw [runWithin_of_isLast _ _ fuel isLast]
      exact ⟨rfl, (List.append_nil lines).symm, rfl⟩
  | @turn input turns last goesOn later ih =>
      intro fuel state lines enough contained
      obtain ⟨fuel, rfl⟩ : ∃ more, fuel = more + 1 := ⟨fuel - 1, by omega⟩
      rw [List.length_cons] at enough
      have fewer : turns.length < fuel := by omega
      cases typed : (nextCommand input).line? with
      | none =>
          rw [typedLines_cons_of_none turns typed] at contained ⊢
          obtain ⟨events, passed, finished⟩ := ih fuel state lines fewer contained
          rw [runWithin_of_idle _ _ fuel goesOn typed]
          refine ⟨?_, passed, finished⟩
          simp only [Run.after, events, transcript, typed, List.append_assoc]
      | some line =>
          rw [typedLines_cons_of_some turns typed] at contained ⊢
          have first := contained (line, state) List.mem_cons_self
          have others : ∀ visit ∈ visits engine (typedLines turns)
              (Engine.interpret engine line state).state,
              IsContained (Engine.execute engine visit.1 visit.2).outcome :=
            fun visit member => contained visit (List.mem_cons_of_mem _ member)
          obtain ⟨events, passed, finished⟩ := ih fuel _ (lines ++ [line]) fewer others
          rw [runWithin_of_line _ _ fuel goesOn typed]
          -- The first command does not end the shell, so the later turns take place.
          have stays := (ending?_interpret_eq_none_iff engine line state).mpr first
          simp only [noting_outcome, noting_state, commandEvents_noting, stays]
          refine ⟨?_, ?_, finished⟩
          · simp only [Run.after, events, Engine.interpretAll, transcript, typed, List.append_assoc,
              List.cons_append]
          · simp only [Run.after, passed, List.append_assoc, List.singleton_append]

/-- Whatever the commands do, those that are interpreted are the first that are typed; and if
nothing ends the shell before its time, none of them escaped. -/
theorem runWithin_passes : ∀ (fuel : Nat) (state : σ) (lines : List Text), turns.length < fuel →
    let run := runWithin (noting (Engine.interpret engine)) fuel input (state, lines)
    (∃ passed, run.state.2 = lines ++ passed ∧ passed <+: typedLines turns) ∧
      (run.abort = none → ∀ visit ∈ visits engine (typedLines turns) state,
        IsContained (Engine.execute engine visit.1 visit.2).outcome) := by
  induction isRead with
  | last isLast =>
      intro fuel state lines enough
      obtain ⟨fuel, rfl⟩ : ∃ more, fuel = more + 1 := ⟨fuel - 1, by omega⟩
      rw [runWithin_of_isLast _ _ fuel isLast]
      exact ⟨⟨[], (List.append_nil lines).symm, List.nil_prefix⟩, fun _ visit none => nomatch none⟩
  | @turn input turns last goesOn later ih =>
      intro fuel state lines enough
      obtain ⟨fuel, rfl⟩ : ∃ more, fuel = more + 1 := ⟨fuel - 1, by omega⟩
      rw [List.length_cons] at enough
      have fewer : turns.length < fuel := by omega
      cases typed : (nextCommand input).line? with
      | none =>
          rw [typedLines_cons_of_none turns typed, runWithin_of_idle _ _ fuel goesOn typed]
          exact ih fuel state lines fewer
      | some line =>
          rw [typedLines_cons_of_some turns typed, runWithin_of_line _ _ fuel goesOn typed]
          simp only [noting_outcome, noting_state, commandEvents_noting]
          cases ends : ending? (Engine.interpret engine line state).outcome with
          | none =>
              have first := (ending?_interpret_eq_none_iff engine line state).mp ends
              obtain ⟨⟨passed, isPassed, isFront⟩, calm⟩ :=
                ih fuel (Engine.interpret engine line state).state (lines ++ [line]) fewer
              refine ⟨⟨line :: passed, ?_, List.cons_prefix_cons.mpr ⟨rfl, isFront⟩⟩, ?_⟩
              · simp only [Run.after, isPassed, List.append_assoc, List.singleton_append]
              · intro finished visit member
                rcases List.mem_cons.mp member with rfl | others
                · exact first
                · exact calm finished visit others
          | some abort =>
              -- The command that ends the shell was passed on as well.
              refine ⟨⟨[line], rfl, List.cons_prefix_cons.mpr ⟨rfl, List.nil_prefix⟩⟩, ?_⟩
              intro finished
              cases finished

end Engines

/-! ## Bodies -/

structure IsShown (body shown : Text) : Prop where
  whole : shown = body ∨ shown = body ++ text "\n"
  nothing : body = [] → shown = []
  ended : body ≠ [] → shown.getLast? = some (CodePoint.ofChar '\n')

theorem isShown_terminatedBody (envelope : Envelope) :
    IsShown envelope.body envelope.terminatedBody := by
  unfold Envelope.terminatedBody
  cases empty : envelope.body with
  | nil => exact ⟨Or.inl rfl, fun _ => rfl, fun some => absurd rfl some⟩
  | cons c rest =>
      split
      next ended => exact ⟨Or.inl rfl, nofun, fun _ => by simpa using ended⟩
      next => exact ⟨Or.inr rfl, nofun, fun _ => List.getLast?_concat⟩

/-! ## The whole shell -/

/-- Whatever is typed, and whatever the engine does: the input is read in turns up to a reading that
ends the shell, and no further.  The commands that are interpreted are, in order and once each, the
first of those typed in these turns.  They are all of them, and the shell ends in no other way and
shows nothing but what was read and what came of each command, exactly when none of them escapes.
An interruption while a command is typed takes what was begun of it and leaves all that follows,
and every answer is shown whole, on the output that its success decides. -/
theorem shell_follows_input_iff (engine : Engine σ) (input : List InputEvent) (state : σ) :
    ∃ turns last, IsReadIn input turns last ∧
      (∀ others other, IsReadIn input others other → others = turns ∧ other = last) ∧
      (let plain := run (Engine.interpret engine) input state
        let noted := run (noting (Engine.interpret engine)) input (state, [])
        (noted.events = plain.events ∧ noted.abort = plain.abort ∧ noted.state.1 = plain.state) ∧
        noted.state.2 <+: typedLines turns ∧
        (plain.abort = none ∧ noted.state.2 = typedLines turns ∧
            plain.events = .output greeting ::
              transcript turns (Engine.interpretAll engine (typedLines turns) state) ++
                farewell last ↔
          ∀ visit ∈ visits engine (typedLines turns) state,
            IsContained (Engine.execute engine visit.1 visit.2).outcome)) ∧
      (∀ fuel, input.length < fuel → runWithin (Engine.interpret engine) fuel input state =
        runWithin (Engine.interpret engine) (input.length + 1) input state) ∧
      (∀ begun : List Text, (∀ line ∈ begun, GoesOn line) → ∃ turn : CommandReading,
        turn.line? = none ∧
          IsReadIn (begun.map .line ++ .interruption :: input) (turn :: turns) last) ∧
      ∀ envelope : Envelope, ∃ shown, IsShown envelope.body shown ∧
        envelope.event = if envelope.isSuccess then .output shown else .errorOutput shown := by
  obtain ⟨turns, last, isRead⟩ := exists_isReadIn input
  have enough : turns.length < input.length + 1 := Nat.lt_succ_of_le isRead.length_le
  obtain ⟨events, abort, final⟩ :=
    runWithin_noting (Engine.interpret engine) (input.length + 1) input state []
  have same := congrArg (Event.output greeting :: ·) events
  obtain ⟨⟨passed, isPassed, isFront⟩, calm⟩ :=
    runWithin_passes engine isRead (input.length + 1) state [] enough
  refine ⟨turns, last, isRead, fun _ _ other => isRead.unique other,
    ⟨⟨same, abort, final⟩, ?_, ?_⟩, ?_, fun begun each => isReadIn_interrupted each isRead, ?_⟩
  · exact isPassed ▸ isFront
  · constructor
    · rintro ⟨finished, -, -⟩
      exact calm (abort.trans finished)
    · intro contained
      obtain ⟨shown, all, finished⟩ :=
        runWithin_of_contained engine isRead (input.length + 1) state [] enough contained
      exact ⟨abort.symm.trans finished, all,
        congrArg (Event.output greeting :: ·) (events.symm.trans shown)⟩
  · intro fuel more
    rw [runWithin_enough _ isRead fuel state (Nat.lt_of_le_of_lt isRead.length_le more),
      runWithin_enough _ isRead _ state enough]
  · exact fun envelope => ⟨_, isShown_terminatedBody envelope, rfl⟩

/-- After a command whose rejection cannot be read, the next one is typed, but not interpreted. -/
theorem unreadable_rejection_ends_shell :
    let counted := text "\x7b\"hits\":\x7b\"total\":1,\"hits\":[]\x7d\x7d"
    let connection := { Connection.answeredBy Connection.unreadableFailure with script :=
      [.response Connection.unreadableFailure, .response ⟨200, [], Utf8.spell counted⟩] }
    let input : List InputEvent := [.line (text "search /logs\n"), .line (text "count /logs\n")]
    let noted := run (noting (Engine.interpret Connection.engine)) input (connection, [])
    (∃ turns last, IsReadIn input turns last ∧
        typedLines turns = [text "search /logs", text "count /logs"]) ∧
      noted.abort = some (.fault (.charset (.noMark (text "UTF-16")))) ∧
      noted.state.2 = [text "search /logs"] := by
  intro counted connection input noted
  exact ⟨⟨_, _, .turn (by decide) (.turn (by decide) (.last (by decide))), by decide⟩,
    by decide +kernel⟩

end Shell

end SearchShell
