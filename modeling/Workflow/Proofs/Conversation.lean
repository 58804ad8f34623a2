import Workflow.Proofs.Cascade
import Workflow.Proofs.Opening

/-!
# Conversations

A session reads lines, and completes the stage that is shown with the bindings on them.  It is an
engine that is used directly: after any lines it is where the engine is that was given the bindings
of those lines, and it goes on for as long as that engine is active.
-/

namespace Workflow

/-- A state in which a session may ask for a line or end. -/
structure State.Ready (state : State) : Prop extends state.WellFormed where
  filled : state.registry.Filled

namespace State

variable {state : State}

theorem Ready.active (ready : state.Ready) (live : state.current.isSome = true) :
    state.Active := by
  rcases ready.standing with idle | active
  · rw [idle.current] at live
    cases live
  · exact active

theorem Ready.idle (ready : state.Ready) (stops : state.current = none) : state.Idle := by
  rcases ready.standing with idle | ⟨number, inst, definition, stage, place, handle, waits⟩
  · exact idle
  · cases stops.symm.trans waits.current

end State

namespace Engine

variable {host : Host} {state : State}

theorem ending_complete (host : Host) (output : Value) (state : State) :
    ending (perform host (.complete output)) state = ending (complete host output) state :=
  ending_bind_pure (complete host output) (fun _ => Answer.done) state

theorem ready_complete (contained : host.Contained) (ready : state.Ready) {output : Value}
    {reached : State} (ran : complete host output state = .ok () reached) : reached.Ready := by
  have sound := ready.toSound
  have passage : Passage host state (.complete output)
      (ending (perform host (.complete output)) state) := completing_passage contained sound rfl
  rw [ending_complete, ending, ran] at passage
  have registry : reached.registry = state.registry := passage.registry_eq contained sound rfl
  have registers : ∀ name ∈ (Operation.complete output).registers?, state.Spares name := by
    rintro name ⟨⟩
  exact ⟨passage.wellFormed_of_returned contained ready.toWellFormed registers,
    registry ▸ ready.filled⟩

/-- An idle engine has no stage that could be completed. -/
theorem complete_idle (idle : state.Idle) (output : Value) :
    complete host output state = .error .nothingToComplete state := by
  simp only [complete, bind_apply, get_apply, idle.shown, throw_apply]

end Engine

namespace Console

/-- The bindings on those lines that are lists of bindings. -/
def bindingsOn (lines : List String) : List Bindings :=
  lines.filterMap fun line => (Bindings.parse line.toList).toOption

/-- Completes stages one after the other, with the outputs that bindings stand for. -/
def completeAll (host : Host) : List Bindings → Engine Unit
  | [] => pure ()
  | bindings :: rest => do
    Engine.complete host (Session.outputOf bindings)
    completeAll host rest

/-- The hooks of a session. -/
abbrev Session.host (session : Session) : Host :=
  session.programs.host Programs.depthLimit

/-- Takes a step and completes a stage with each list of bindings on some lines. -/
def Session.given (session : Session) (step : Engine Unit) (lines : List String) : Engine Unit := do
  step
  completeAll session.host (bindingsOn lines)

/-- The turn that a turn leads to by some lines, if they are all read. -/
def Turn.after (turn : Turn) : List String → Option Turn
  | [] => some turn
  | line :: lines =>
    match turn.next with
    | .ended _ => none
    | .waiting session => (session.feed line).after lines

/-- The turn with a text printed in front of it. -/
def Turn.behind (turn : Turn) (before : String) : Turn :=
  { turn with output := before ++ turn.output }

/-- The last that a turn prints is the text. -/
def Turn.EndsWith (turn : Turn) (text : String) : Prop :=
  ∃ before, turn.output = before ++ text

/-- A turn asks for the output of the stage that an engine waits for. -/
def Turn.Asks (turn : Turn) (state : State) : Prop :=
  ∃ number inst definition stage place handle,
    state.Waits number inst definition stage place handle ∧
      turn.EndsWith (Text.withoutEscapes (stage.name ++ " output: "))

/-- What a turn of a session shows, if the engine of the session took the step. -/
inductive Turn.Shows (turn : Turn) (session : Session) (step : Engine Unit) : Prop
  /-- A workflow is running, and the turn asks for the output of its stage. -/
  | waiting {reached : State} (ran : step session.state = .ok () reached) (ready : reached.Ready)
      (active : reached.Active) (next : turn.next = .waiting { session with state := reached })
      (asks : turn.Asks reached)
  /-- Nothing is running any more. -/
  | finished {reached : State} (ran : step session.state = .ok () reached) (idle : reached.Idle)
      (next : turn.next = .ended (.exited 0)) (closes : turn.EndsWith "Workflow finished\n")
  /-- The step failed. -/
  | failed {failure : Failure} {reached : State}
      (ran : step session.state = .error failure reached)
      (next : turn.next = .ended (if failure.isReported then .exited 1 else .failed failure))

variable {host : Host} {session : Session} {step : Engine Unit} {turn : Turn}

theorem completeAll_append (host : Host) (first second : List Bindings) :
    completeAll host (first ++ second) =
      completeAll host first >>= fun _ => completeAll host second := by
  induction first with
  | nil => rfl
  | cons bindings rest ih =>
      rw [List.cons_append, completeAll, completeAll, ih, bind_assoc]

@[simp] theorem Session.given_nil (session : Session) (step : Engine Unit) :
    session.given step [] = step :=
  bind_pure_unit

/-- Some lines may be taken after the others. -/
theorem Session.given_append (session : Session) (step : Engine Unit) (lines more : List String) :
    session.given step (lines ++ more) = session.given (session.given step lines) more := by
  simp only [Session.given, bindingsOn, List.filterMap_append, completeAll_append, bind_assoc]

theorem Session.given_cons (session : Session) (step : Engine Unit) (line : String)
    (lines : List String) :
    session.given step (line :: lines) = session.given (session.given step [line]) lines :=
  session.given_append step [line] lines

theorem Session.given_ok {session : Session} {step : Engine Unit} {state reached : State}
    (ran : step state = .ok () reached) (lines : List String) :
    session.given step lines state = completeAll session.host (bindingsOn lines) reached := by
  rw [Session.given, Engine.bind_apply, ran]

theorem Session.given_error {session : Session} {step : Engine Unit} {state reached : State}
    {failure : Failure} (ran : step state = .error failure reached) (lines : List String) :
    session.given step lines state = .error failure reached := by
  rw [Session.given, Engine.bind_apply, ran]

theorem ready_completeAll (contained : host.Contained) {given : List Bindings} {state : State}
    (ready : state.Ready) {reached : State} (ran : completeAll host given state = .ok () reached) :
    reached.Ready := by
  induction given generalizing state with
  | nil =>
      cases ran
      exact ready
  | cons bindings rest ih =>
      rw [completeAll, Engine.bind_apply] at ran
      cases first : Engine.complete host (Session.outputOf bindings) state with
      | error failure after =>
          rw [first] at ran
          cases ran
      | ok done after =>
          rw [first] at ran
          exact ih (Engine.ready_complete contained ready first) ran

/-- Once everything is over, there is nothing to be completed. -/
theorem completeAll_idle {given : List Bindings} {state : State} (idle : state.Idle)
    {reached : State} (ran : completeAll host given state = .ok () reached) : reached = state := by
  cases given with
  | nil =>
      cases ran
      rfl
  | cons bindings rest =>
      rw [completeAll, Engine.bind_apply, Engine.complete_idle idle] at ran
      cases ran

theorem promptFor_active {state : State} (active : state.Active) :
    ∃ number inst definition stage place handle,
      state.Waits number inst definition stage place handle ∧
        promptFor state = .ok (Text.withoutEscapes (stage.name ++ " output: ")) := by
  obtain ⟨number, inst, definition, stage, place, handle, waits⟩ := active
  refine ⟨number, inst, definition, stage, place, handle, waits, ?_⟩
  have found : state.dispatcher.handle? place = some handle := waits.dispatched
  simp only [promptFor, waits.shown, Option.bind_some, found, waits.named]

/-- A turn shows what the engine of its session came to. -/
theorem shows_turn {other : Session} {attempt : Attempt Unit}
    (programs : other.programs = session.programs) (level : other.level = session.level)
    (took : attempt other.state = reporting "Error: " step session.state)
    (ready : ∀ reached, step session.state = .ok () reached → reached.Ready) :
    (other.turn attempt).Shows session step := by
  cases ran : step session.state with
  | error failure reached =>
      refine .failed ran ?_
      cases reported : failure.isReported <;>
        simp [Session.turn, took, reporting, ran, reported]
  | ok done reached =>
      have attempted : attempt other.state = .ok () reached := by
        rw [took, reporting, ran]
      have ready := ready reached ran
      cases live : reached.current.isSome with
      | false =>
          have stops : reached.current = none := by simpa using live
          refine .finished ran (ready.idle stops) ?_ ?_
          · simp [Session.turn, attempted, stops]
          · exact ⟨displayed (eventsSince other.state reached),
              by simp [Session.turn, attempted, stops]⟩
      | true =>
          have active := ready.active live
          obtain ⟨number, inst, definition, stage, place, handle, waits, asked⟩ :=
            promptFor_active active
          refine .waiting ran ready active ?_
            ⟨number, inst, definition, stage, place, handle, waits, ?_⟩
          · simp [Session.turn, attempted, live, asked, programs, level]
          · exact ⟨displayed (eventsSince other.state reached),
              by simp [Session.turn, attempted, live, asked]⟩

theorem Turn.EndsWith.behind {text : String} (closes : turn.EndsWith text) (before : String) :
    (turn.behind before).EndsWith text := by
  obtain ⟨earlier, ends⟩ := closes
  exact ⟨before ++ earlier, by rw [Turn.behind, ends, String.append_assoc]⟩

/-- It does not matter what is printed before. -/
theorem Turn.Shows.behind (shows : turn.Shows session step) (before : String) :
    (turn.behind before).Shows session step := by
  cases shows with
  | waiting ran ready active next asks =>
      obtain ⟨number, inst, definition, stage, place, handle, waits, closes⟩ := asks
      exact .waiting ran ready active next
        ⟨number, inst, definition, stage, place, handle, waits, closes.behind before⟩
  | finished ran idle next closes => exact .finished ran idle next (closes.behind before)
  | failed ran next => exact .failed ran next

/-- A line completes the stage that is shown, if it is a list of bindings. -/
theorem feed_eq (session : Session) (line : String) : ∃ before, session.feed line =
    (session.turn (reporting "Error: " (completeAll session.host (bindingsOn [line])))).behind
      before := by
  cases read : Bindings.parse line.toList with
  | error fault =>
      refine ⟨line ++ "\n" ++ printedPlain fault.message, ?_⟩
      have none : bindingsOn [line] = [] := by simp [bindingsOn, read, Except.toOption]
      simp only [Session.feed, Session.submit, Turn.behind, read, none, completeAll,
        String.append_assoc]
      rfl
  | ok bindings =>
      refine ⟨line ++ "\n", ?_⟩
      have one : bindingsOn [line] = [bindings] := by simp [bindingsOn, read, Except.toOption]
      simp only [Session.feed, Session.submit, Turn.behind, read, one, completeAll, bind_pure_unit]

theorem continueWith_ended {ending : Ending} (next : turn.next = .ended ending)
    (lines : List String) : turn.continueWith lines = ⟨turn.output, turn.errors, ending⟩ := by
  cases lines <;> simp [Turn.continueWith, next]

/-- A session that waits has an engine that is active, and stands where the engine does. -/
theorem Turn.Shows.of_waiting (shows : turn.Shows session step) {waits : Session}
    (next : turn.next = .waiting waits) : ∃ reached, step session.state = .ok () reached ∧
      reached.Ready ∧ reached.Active ∧ waits = { session with state := reached } := by
  cases shows with
  | waiting ran ready active waiting asks =>
      cases waiting.symm.trans next
      exact ⟨_, ran, ready, active, rfl⟩
  | finished ran idle stops closes => cases stops.symm.trans next
  | failed ran stops => cases stops.symm.trans next

theorem Turn.Shows.live (shows : turn.Shows session step) {waits : Session}
    (next : turn.next = .waiting waits) {reached : State}
    (ran : step session.state = .ok () reached) : reached.current ≠ none := by
  obtain ⟨other, earlier, -, active, -⟩ := shows.of_waiting next
  cases earlier.symm.trans ran
  obtain ⟨number, inst, definition, stage, place, handle, waits⟩ := active
  rw [waits.current]
  exact nofun

theorem Turn.Shows.closes_of_exited (shows : turn.Shows session step)
    (exited : turn.next = .ended (.exited 0)) : turn.EndsWith "Workflow finished\n" := by
  cases shows with
  | waiting ran ready active waits asks => cases waits.symm.trans exited
  | finished ran idle stops closes => exact closes
  | @failed failure reached ran stops =>
      have ended := stops.symm.trans exited
      cases reported : failure.isReported <;> simp [reported] at ended

section Conversation

variable (contained : session.host.Contained)
include contained

/-- If a turn shows what the engine came to, so does the next one. -/
theorem Turn.Shows.feed (shows : turn.Shows session step) {waits : Session}
    (next : turn.next = .waiting waits) (line : String) :
    (waits.feed line).Shows session (session.given step [line]) := by
  obtain ⟨reached, ran, ready, -, rfl⟩ := shows.of_waiting next
  let later : Session := { session with state := reached }
  have shown : (later.turn (reporting "Error: "
      (completeAll session.host (bindingsOn [line])))).Shows session
        (session.given step [line]) := by
    refine shows_turn rfl rfl (by simp only [reporting, Session.given_ok ran]; rfl) ?_
    rw [Session.given_ok ran]
    exact fun after completed => ready_completeAll contained ready completed
  obtain ⟨before, fed⟩ := feed_eq later line
  rw [fed]
  exact shown.behind before

/-- After any lines, a session shows what the engine came to that was given their bindings. -/
theorem Turn.Shows.after (shows : turn.Shows session step) {lines : List String} {last : Turn}
    (read : turn.after lines = some last) : last.Shows session (session.given step lines) := by
  induction lines generalizing turn step with
  | nil =>
      cases read
      rwa [Session.given_nil]
  | cons line rest ih =>
      rw [Turn.after] at read
      split at read
      · cases read
      · next waits next =>
        rw [Session.given_cons]
        exact ih (shows.feed contained next line) read

/-- For as long as the engine is active, the session reads the lines. -/
theorem Turn.Shows.reads (shows : turn.Shows session step) {lines : List String} {reached : State}
    (ran : session.given step lines session.state = .ok () reached)
    (live : reached.current.isSome = true) : ∃ last, turn.after lines = some last := by
  induction lines generalizing turn step with
  | nil => exact ⟨turn, rfl⟩
  | cons line rest ih =>
      have kept := shows
      cases shows with
      | waiting earlier ready active next asks =>
          rw [Session.given_cons] at ran
          obtain ⟨last, read⟩ := ih (kept.feed contained next line) ran
          exact ⟨last, by rw [Turn.after, next]; exact read⟩
      | finished earlier idle next closes =>
          rw [Session.given_ok earlier] at ran
          cases completeAll_idle idle ran
          rw [idle.current] at live
          cases live
      | failed earlier next =>
          rw [Session.given_error earlier] at ran
          cases ran

/-- A session that is over without a failure tells so at the end. -/
theorem Turn.Shows.closes (shows : turn.Shows session step) {lines : List String}
    (exited : (turn.continueWith lines).ending = .exited 0) :
    ∃ before, (turn.continueWith lines).output = before ++ "Workflow finished\n" := by
  induction lines generalizing turn step with
  | nil =>
      cases next : turn.next with
      | ended ending =>
          rw [continueWith_ended next] at exited ⊢
          subst exited
          exact shows.closes_of_exited next
      | waiting waits => simp [Turn.continueWith, next, Session.aborted] at exited
  | cons line rest ih =>
      cases next : turn.next with
      | ended ending =>
          rw [continueWith_ended next] at exited ⊢
          subst exited
          exact shows.closes_of_exited next
      | waiting waits =>
          simp only [Turn.continueWith, next] at exited ⊢
          obtain ⟨before, ends⟩ := ih (shows.feed contained next line) exited
          exact ⟨turn.output ++ before, by rw [ends, String.append_assoc]⟩

end Conversation

variable {programs : Programs} {workspace : Workspace} {registry logLevel : Option String}
  {level : LogLevel} {start : State}

end Console

/-! ## A trip on the terminal -/

theorem Trace.eq_ok_of_isOk {ε σ α : Type} (program : EStateM ε σ α) (state : σ)
    (isOk : (outcomeOf program state).1.isOk = true) :
    ∃ answer, program state = .ok answer (outcomeOf program state).2 := by
  simp only [outcomeOf] at isOk ⊢
  cases ran : program state with
  | ok answer reached => exact ⟨answer, rfl⟩
  | error failure reached =>
      rw [ran] at isOk
      cases isOk

namespace Terminal

/-- A document with a trip that ends where it has gone to. -/
def workspace : Workspace :=
  { files := [("trips.json", .dict [(.text "workflows", .list [.dict
      [(.text "name", .text "Trip"), (.text "definition", .text "Go;Return(!to)")]])])] }

def programs : Programs := {}

theorem keepsToMapping (program : Nat) (occasion : Occasion) :
    (programs.behaviour program occasion).KeepsToMapping :=
  trivial

theorem contained : (programs.host Programs.depthLimit).Contained :=
  Programs.contained_host keepsToMapping _

theorem answers : (programs.host Programs.depthLimit).Answers :=
  fun _ _ shown state => ⟨(shown, .null), state, rfl⟩

def start : State :=
  (Trace.outcomeOf (Console.build programs workspace {} (some "trips.json")) Console.blank).2

theorem prepares :
    Console.Prepares programs workspace (some "trips.json") none .warning start := by
  have built := Trace.eq_ok_of_isOk (Console.build programs workspace {} (some "trips.json"))
    Console.blank (by decide +kernel)
  exact ⟨{}, rfl, by decide +kernel, built.choose_spec⟩

/-- The first line is no list of bindings. -/
def lines : List String :=
  ["to town", "to=town", ""]

end Terminal

namespace Console

end Console

end Workflow
