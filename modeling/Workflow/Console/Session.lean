import Workflow.Console.Request
import Workflow.Engine.Behaviour
import Workflow.Value.Reading
import Workflow.Workspace

/-!
# Sessions on the terminal

A request is answered at once, or it opens a session: a workflow that runs, asks for the output of
each stage and goes on with every line that it is given.  Nothing here reads or prints; each turn
says what to print and whether another line is needed.
-/

namespace Workflow.Console

/-- Why a request or a session ends early. -/
inductive Stop where
  /-- It is refused with a line for the user. -/
  | refused (line : String)
  /-- A failure that nobody deals with. -/
  | failed (failure : Failure)

/-- A step that may end everything early. -/
abbrev Attempt := EStateM Stop State

/-- How a request ends. -/
inductive Ending where
  | exited (code : Nat)
  | failed (failure : Failure)

/-- A running workflow that waits for a line. -/
structure Session where
  programs : Programs
  level : LogLevel
  state : State

/-- What follows a turn. -/
inductive Next where
  | waiting (session : Session)
  | ended (ending : Ending)

/-- What a turn prints, and what follows. -/
structure Turn where
  output : String
  errors : String
  next : Next

/-- Lines as they are printed. -/
def printed (lines : List String) : String :=
  String.join (lines.map (· ++ "\n"))

/-- A line for the user. -/
def printedPlain (line : String) : String :=
  Text.withoutEscapes line ++ "\n"

/-- What happened between two states, in order. -/
def eventsSince (before after : State) : List Event :=
  (after.journal.take (after.journal.length - before.journal.length)).reverse

/-- The warnings among events as they are shown when no log was set up. -/
def warnings (events : List Event) : String :=
  printed ((logAt .warning events).map (·.message))

/-- The log of events. -/
def logged (level : LogLevel) (events : List Event) : String :=
  printed ((logAt level events).map (·.line))

/-- What events display. -/
def displayed (events : List Event) : String :=
  printed (events.filterMap Event.line?)

/-- Runs an engine step; the failures of the engine itself are reported after an introduction. -/
def reporting {α : Type} (introduction : String) (step : Engine α) : Attempt α := fun state =>
  match step state with
  | .ok answer reached => .ok answer reached
  | .error failure reached =>
    if failure.isReported then .error (.refused (introduction ++ failure.message)) reached
    else .error (.failed failure) reached

/-- A computation whose failures nobody deals with. -/
def demand {α : Type} : Except Failure α → Attempt α
  | .ok answer => pure answer
  | .error failure => throw (.failed failure)

/-- The path of the registry document: the one that is asked for, or the one that is set. -/
def registryPath (workspace : Workspace) : Option String → Attempt String
  | some path => return Path.normal path
  | none => do
    match Text.given? (← demand (workspace.settings none)).registryFile with
    | some path => return path
    | none => throw (.refused "No registry file given (use --registry or STAGEFLOW_REGISTRY)")

/-- Registers the workflows of the registry document. -/
def openRegistry (programs : Programs) (workspace : Workspace) (asked : Option String) :
    Attempt Unit := do
  let path ← registryPath workspace asked
  if Path.isTooLong (Path.normal path) then throw (.failed .pathTooLong)
  unless workspace.contains (Path.normal path) do
    throw (.refused ("Registry file not found: " ++ path))
  let document ← demand (workspace.read path)
  reporting "Invalid registry: " (Engine.load (programs.host 0) document path)

/-- The end of a request that was answered in lines, or stopped. -/
def answered (attempt : Attempt (List String)) : Turn :=
  match attempt {} with
  | .ok lines reached =>
    ⟨String.join (lines.map printedPlain), warnings reached.journal.reverse, .ended (.exited 0)⟩
  | .error (.refused line) reached =>
    ⟨printedPlain line, warnings reached.journal.reverse, .ended (.exited 1)⟩
  | .error (.failed failure) reached =>
    ⟨"", warnings reached.journal.reverse, .ended (.failed failure)⟩

/-- The lines on the stages of a definition text. -/
def planLines (text : String) : Attempt (List String) :=
  let plan := Plan.parse text
  if plan.isEmpty then throw (.refused "Definition has no stages")
  else
    return plan.zipIdx.map fun (stage, number) => s!"{number}\t{stage.render}"

/-- The lines on all registered workflows. -/
def registryLines (programs : Programs) (workspace : Workspace) (asked : Option String) :
    Attempt (List String) := do
  openRegistry programs workspace asked
  let definitions := (← get).registry.definitions
  if definitions.isEmpty then return ["No workflows found"]
  else
    return definitions.map fun definition =>
      definition.name ++ "\t" ++ ";".intercalate definition.stageNames

/-- The lines on one definition. -/
def definitionLines (definition : Definition) : List String :=
  [s!"Workflow {definition.name}: {definition.stageCount} stages"] ++
    (definition.stages.zipIdx.map fun (stage, number) =>
      s!"- {number} {stage.name}" ++ StagePlan.renderTokens stage.tokens) ++
    ["Acceptor: " ++ definition.acceptor.name] ++
    (definition.redirector.toList.map fun redirector => "Redirector: " ++ redirector.name)

/-- The lines on one registered workflow. -/
def workflowLines (programs : Programs) (workspace : Workspace) (name : String)
    (asked : Option String) : Attempt (List String) := do
  openRegistry programs workspace asked
  match Entries.lookup (← get).registry name with
  | some definition => return definitionLines definition
  | none => throw (.refused "Workflow not found")

/-- A word in capitals, as far as the names of log levels go. -/
def capitals (word : String) : String :=
  word.map fun c => if c = 'ı' then 'I' else if c = 'ſ' then 'S' else c.toUpper

/-- The question for the output of the stage that is shown. -/
def promptFor (state : State) : Except Failure String :=
  match state.dispatcher.current.bind state.dispatcher.handle? with
  | some handle => .ok (Text.withoutEscapes (handle.stage ++ " output: "))
  | none => .error .noInstance

namespace Session

/-- Takes a step of a session and asks for the next line, unless everything is over. -/
def turn (session : Session) (attempt : Attempt Unit) : Turn :=
  match attempt session.state with
  | .ok () reached =>
    let events := eventsSince session.state reached
    let output := displayed events
    let errors := logged session.level events
    if reached.current.isSome then
      match promptFor reached with
      | .ok prompt => ⟨output ++ prompt, errors, .waiting { session with state := reached }⟩
      | .error failure => ⟨output, errors, .ended (.failed failure)⟩
    else ⟨output ++ "Workflow finished\n", errors, .ended (.exited 0)⟩
  | .error stop reached =>
    let events := eventsSince session.state reached
    let output := displayed events
    let errors := logged session.level events
    match stop with
    | .refused line => ⟨output ++ printedPlain line, errors, .ended (.exited 1)⟩
    | .failed failure => ⟨output, errors, .ended (.failed failure)⟩

/-- The output of a stage that a line of bindings stands for. -/
def outputOf (bindings : Bindings) : Value :=
  Value.ofEntries (bindings.map fun (key, text) => (key, Value.ofText text))

/-- Completes the stage that is shown with the bindings of a line; a line that is no list of
bindings is refused, and costs a turn. -/
def submit (session : Session) (line : String) : Turn :=
  match Bindings.parse line.toList with
  | .error fault =>
    let again := session.turn (pure ())
    { again with output := printedPlain fault.message ++ again.output }
  | .ok bindings =>
    session.turn (reporting "Error: "
      (Engine.complete (session.programs.host Programs.depthLimit) (outputOf bindings)))

/-- Goes on with a line, which is printed behind the question. -/
def feed (session : Session) (line : String) : Turn :=
  let turn := session.submit line
  { turn with output := line ++ "\n" ++ turn.output }

/-- What is printed when a line is needed and there is none. -/
def abortedText : String := "Aborted.\n"

/-- A session that needs a line and gets none ends like this. -/
def aborted : Ending := .exited 1

end Session

/-- Loads the registry, registers the built-in workflow and invokes the asked one. -/
def opening (programs : Programs) (workspace : Workspace) (settings : Settings)
    (invocation : String) (registry : Option String) : Attempt Unit := do
  openRegistry programs workspace registry
  reporting "Error: " (Engine.initial settings.controller none)
  let _ ← reporting "Error: " (Engine.invokeText invocation false)

/-- The first turn of a session. -/
def openSession (programs : Programs) (workspace : Workspace) (invocation : String)
    (registry logLevel : Option String) : Turn :=
  match workspace.settings none with
  | .error failure => ⟨"", "", .ended (.failed failure)⟩
  | .ok settings =>
    match LogLevel.ofName? (capitals ((Text.given? logLevel).getD settings.logLevel)) with
    | none => ⟨"", "", .ended (.failed .unknownLevel)⟩
    | some level =>
      let session : Session := ⟨programs, level, { dispatcher := { backend := .console } }⟩
      session.turn (opening programs workspace settings invocation registry)

/-- Answers a request. -/
def respond (programs : Programs) (workspace : Workspace) : Request → Turn
  | .parse plan => answered (planLines plan)
  | .list registry => answered (registryLines programs workspace registry)
  | .show name registry => answered (workflowLines programs workspace name registry)
  | .run invocation registry logLevel =>
    openSession programs workspace invocation registry logLevel

/-- Everything that a request printed, and how it ended. -/
structure Transcript where
  output : String
  errors : String
  ending : Ending

/-- Goes on with lines until a session ends; the lines may end first. -/
def Turn.continueWith (turn : Turn) : List String → Transcript
  | [] =>
    match turn.next with
    | .ended ending => ⟨turn.output, turn.errors, ending⟩
    | .waiting _ => ⟨turn.output, turn.errors ++ Session.abortedText, Session.aborted⟩
  | line :: lines =>
    match turn.next with
    | .ended ending => ⟨turn.output, turn.errors, ending⟩
    | .waiting session =>
      let rest := Turn.continueWith (session.feed line) lines
      { rest with output := turn.output ++ rest.output, errors := turn.errors ++ rest.errors }

/-- Answers a request, with all lines that there are. -/
def transcript (programs : Programs) (workspace : Workspace) (request : Request)
    (lines : List String) : Transcript :=
  (respond programs workspace request).continueWith lines

/-- Adds a character in front of the first of some lines. -/
def extendFirst (c : Char) : List (List Char) → List (List Char)
  | [] => [[c]]
  | line :: lines => (c :: line) :: lines

/-- The lines of a text, each ended by a line feed, a carriage return or both. -/
def linesOf : List Char → List (List Char)
  | [] => []
  | '\r' :: '\n' :: rest => [] :: linesOf rest
  | '\r' :: rest => [] :: linesOf rest
  | '\n' :: rest => [] :: linesOf rest
  | c :: rest => extendFirst c (linesOf rest)

/-- The lines of a text, as strings. -/
def lines (text : String) : List String :=
  (linesOf text.toList).map String.ofList

end Workflow.Console
