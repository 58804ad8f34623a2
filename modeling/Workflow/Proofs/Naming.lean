import Workflow.Proofs.Legible
import Workflow.Proofs.Misdirection
import Workflow.Proofs.Refusal

/-!
# Names that lead to their workflows

A workflow may be registered under any name that is not empty.  A text that invokes it is trimmed
and may be taken for a call, so not every name is read as itself.  Those that are lead to their
workflow wherever they are given, to an engine or by a redirector.  All others are refused or read
as other names, and lead to their workflow only if they are given as they are.
-/

namespace Workflow

namespace Invocation

variable {name : String} {invocation : Invocation}

/-- A name is read as itself exactly if nothing of it is lost or taken for bindings. -/
theorem parse_eq_name_iff : parse name = .ok ⟨name, none⟩ ↔ Legible ⟨name, none⟩ := by
  constructor
  · intro read
    exact (legible_of_parse read).1
  · intro legible
    exact legible.parse_render nofun

/-- A name that is not read as itself is read as another name, if it is read at all. -/
theorem name_ne_of_parse (read : parse name = .ok invocation) (lost : ¬ Legible ⟨name, none⟩) :
    invocation.name ≠ name := by
  rintro rfl
  obtain ⟨trimmed, shape⟩ := (legible_of_parse read).1
  refine lost ⟨trimmed, ?_⟩
  cases bound : invocation.arguments with
  | none =>
      rw [bound] at shape
      exact shape
  | some bindings =>
      rw [bound] at shape
      exact fun called => shape.1 called.2

end Invocation

/-- The invocation that a source stands for, if it is well formed. -/
def InvocationSource.invocation : InvocationSource → Except Failure Invocation
  | .text target => (Invocation.parse target).mapError Failure.binding
  | .fields name arguments => Engine.invocationOfFields name arguments

namespace Engine

variable {host : Host} {state advanced reached : State} {number : Nat} {inst : Instance}
  {definition other : Definition} {stage : Stage} {invocation : Invocation} {text : String}
  {force : Bool}

/-- A new instance comes behind the ones that were there before, and is current.  Where that is all
that happens, its first stage could not be dispatched; otherwise the engine waits for it. -/
structure Opens (before : List Instance) (invocation : Invocation) (definition : Definition)
    (result : Option Failure × State) : Prop where
  current : result.2.current = some before.length
  instances : result.2.instances = before ++ [Instance.ofInvocation invocation]
  unrefused : ∀ failure, result.1 = some failure → failure.refusesInvocation = false
  waits : result.1 = none → ∃ stage place handle,
    result.2.Waits before.length (Instance.ofInvocation invocation) definition stage place handle

/-! ## Starting a workflow -/

/-- Dispatching a stage moves nothing, and if it succeeds the engine waits for the stage. -/
theorem startStage_waits (runs : state.Runs number inst definition)
    (running : inst.state = .running) (counted : 0 ≤ inst.stage) :
    state.Still (ending startStage state).2 ∧
      ((ending startStage state).1 = none → ∃ stage place handle,
        (ending startStage state).2.Waits number inst definition stage place handle) := by
  have stuck (failure : Failure) : state.Still (some failure, state).2 ∧
      ((some failure, state).1 = none → ∃ stage place handle,
        (some failure, state).2.Waits number inst definition stage place handle) :=
    ⟨⟨rfl, rfl, rfl⟩, fun ended => absurd ended (Option.some_ne_none _)⟩
  cases there : definition.stage? inst.stage with
  | none =>
      rw [ending, startStage_outOfRange runs.current runs.found runs.defined there]
      exact stuck _
  | some stage =>
      cases remembers : state.dispatcher.remembers with
      | true =>
          rw [ending, startStage_apply runs.current runs.found runs.defined there remembers]
          cases Token.resolveAll inst id "" stage.tokens with
          | error fault => exact stuck _
          | ok arguments =>
              exact ⟨⟨rfl, rfl, rfl⟩, fun _ =>
                ⟨_, _, _, State.waits_dispatched ⟨runs, there⟩ running counted arguments⟩⟩
      | false =>
          have vain (arguments : Option (List String)) :=
            activate_attach_forgotten remembers stage.name arguments
          simp only [bind_apply] at vain
          simp only [ending, startStage, bind_apply, currentNumber_apply runs.current,
            definitionOf_apply runs.found, runs.defined, lift_ok, instanceAt_apply runs.found,
            stageOf, there, pure_apply]
          cases Token.resolveAll inst id "" stage.tokens with
          | error fault => exact stuck _
          | ok arguments =>
              simp only [mapError_ok, lift_ok, vain]
              exact ⟨⟨rfl, rfl, rfl⟩, fun ended => absurd ended (Option.some_ne_none _)⟩

/-- A workflow that is known is opened, whatever else there is. -/
theorem opens_begun (known : Registry.get state.registry invocation.name = .ok definition) :
    Opens state.instances invocation definition (ending startStage (state.begun invocation)) := by
  have found : (state.begun invocation).instances[state.instances.length]? =
      some (Instance.ofInvocation invocation) := List.getElem?_concat_length
  obtain ⟨still, waits⟩ := startStage_waits ⟨rfl, found, known⟩ rfl (Int.le_refl 0)
  exact {
    current := still.current
    instances := still.instances
    unrefused := fun _ failed => refusesInvocation_startStage rfl found known failed
    waits }

theorem requireIdle_open (opened : state.current = none ∨ force = true) :
    requireIdle force state = .ok () state := by
  rcases opened with idle | rfl
  · simp [requireIdle, bind_apply, idle]
  · exact requireIdle_force state

/-- Where nothing is in the way, what is invoked is started. -/
theorem invokeSource_open (opened : state.current = none ∨ force = true)
    (source : InvocationSource) :
    invokeSource source force state = (do start (← lift source.invocation) : Engine Nat) state := by
  cases source with
  | text text => simp only [invokeSource, invokeText, bind_apply, requireIdle_open opened,
      InvocationSource.invocation]
  | fields name arguments =>
      simp only [invokeSource, invoke, bind_apply, InvocationSource.invocation]
      cases invocationOfFields name arguments with
      | error failure => rfl
      | ok invocation => simp only [lift_ok, requireIdle_open opened]

/-- An invocation of a known workflow opens it, where nothing is in the way. -/
theorem opens_invoke (opened : state.current = none ∨ force = true) {source : InvocationSource}
    (read : source.invocation = .ok invocation)
    (known : Registry.get state.registry invocation.name = .ok definition) :
    Opens state.instances invocation definition
      (ending (perform host (.invoke source force)) state) := by
  have there : Registry.get state.detached.registry invocation.name = .ok definition := known
  have opens : Opens state.instances invocation definition
      (ending startStage (state.detached.begun invocation)) := opens_begun there
  have invoked : invokeSource source force state =
      (do startStage; return state.instances.length : Engine Nat)
        (state.detached.begun invocation) := by
    rw [invokeSource_open opened, read, bind_apply, lift_ok]
    exact start_apply known
  simp only [ending, perform, bind_apply, invoked] at opens ⊢
  cases started : startStage (state.detached.begun invocation) with
  | error failure after =>
      rw [started] at opens
      exact opens
  | ok done after =>
      rw [started] at opens
      have found : (after.reporting [.returned state.instances.length]).instances[
          state.instances.length]? = some (Instance.ofInvocation invocation) := by
        obtain ⟨stage, place, handle, waits⟩ := opens.waits rfl
        exact waits.found
      simp only [pure_apply, note_eq_reporting, instanceAt_apply found]
      exact {
        opens with
        unrefused := fun failure failed => absurd failed.symm (Option.some_ne_none failure)
        waits := by
          intro returned
          obtain ⟨stage, place, handle, waits⟩ := opens.waits rfl
          exact ⟨stage, place, handle, { waits with }⟩ }

/-! ## Following a redirector -/

/-- The redirector of a workflow is asked, and answers with a text in `reached`, in which some
instance is current. -/
structure Directs (host : Host) (state : State) (number : Nat) (definition : Definition)
    (next : Int) (text : String) (reached : State) : Prop where
  answered : ∃ redirector shown, definition.redirector = some redirector ∧
    consult host redirector number (.redirect next (definition.stageName? next) true)
      (.values number) state = .ok (shown, .text text) reached
  asked : ∃ inst, reached.instances[number]? = some inst
  runs : ∃ top aside, reached.current = some top ∧ reached.instances[top]? = some aside

/-- A redirect to a text opens the known workflow that the text invokes. -/
theorem opens_directed {next : Int} (directs : Directs host state number other next text reached)
    (read : Invocation.parse text = .ok invocation)
    (known : Registry.get reached.registry invocation.name = .ok definition)
    (stageName : Option String) :
    Opens reached.instances invocation definition (ending (do
      let target ← advise host number other next
      proceed host number other stageName target) state) := by
  obtain ⟨redirector, shown, asks, answered⟩ := directs.answered
  obtain ⟨inst, found⟩ := directs.asked
  obtain ⟨top, aside, current, there⟩ := directs.runs
  let departing := (reached.reporting [.redirecting number stageName inst.stage text]).detached
  have target : Registry.get (departing.asided top aside).registry invocation.name =
      .ok definition := known
  simp only [ending, advise, asks, bind_apply, answered, redirectTarget, read, lift_ok, proceed,
    redirect_current_apply found current there known]
  exact opens_begun target

/-- An operation completes a stage whose output is accepted, and the redirector answers with a text
in `reached`. -/
structure Redirected (host : Host) (state : State) (operation : Operation) (text : String)
    (reached : State) : Prop where
  directs : ∃ place payload number inst definition stage left staged advanced,
    state.Hears operation place payload ∧
      Advanced host (state.finishing place).detached payload number inst definition stage left
        staged advanced ∧
      Directs host advanced number definition (inst.stage + 1) text reached

/-- An operation opens the known workflow to which it redirects. -/
theorem opens_redirected (contained : host.Contained) (sound : state.Sound) {operation : Operation}
    (redirected : Redirected host state operation text reached)
    (read : Invocation.parse text = .ok invocation)
    (known : Registry.get reached.registry invocation.name = .ok definition) :
    Opens reached.instances invocation definition (ending (perform host operation) state) := by
  obtain ⟨place, payload, number, inst, definition, stage, left, staged, advanced, hears, accepted,
    directs⟩ := redirected.directs
  have grounded := (poised_finishing sound hears.held).toGrounded
  have stands : (state.finishing place).AtStage number inst definition stage :=
    ⟨⟨accepted.current, accepted.found, accepted.defined⟩, accepted.there⟩
  rw [ending_hears sound hears, accepted.continues stands contained grounded]
  exact opens_directed directs read known _

/-- A workflow that is registered is found under its name.  The name is read as itself exactly if it
is legible, and then it leads to the workflow: where nothing is in the way the workflow is opened by
the text, and so it is by a redirector that answers with the text, whatever else its hook does.  A
name that is not legible is never read as itself, and opens the workflow only if it is given as it
is. -/
theorem opens_of_registered {registry altered : Registry} {registration : Registration}
    {definition : Definition}
    (accepted : registry.register registration = .ok (altered, definition)) :
    let name := registration.name
    let invocation : Invocation := ⟨name, none⟩
    Registry.get altered name = .ok definition ∧
    (Invocation.parse name = .ok invocation ↔ invocation.Legible) ∧
    (invocation.Legible → ∀ (host : Host) (state : State),
      (∀ force, state.current = none ∨ force = true →
        Registry.get state.registry name = .ok definition →
          Opens state.instances invocation definition
            (ending (perform host (.invoke (.text name) force)) state)) ∧
      (∀ number other next stageName reached, Directs host state number other next name reached →
        Registry.get reached.registry name = .ok definition →
          Opens reached.instances invocation definition (ending (do
            let target ← advise host number other next
            proceed host number other stageName target) state)) ∧
      (host.Contained → state.Sound → ∀ operation reached,
        Redirected host state operation name reached →
        Registry.get reached.registry name = .ok definition →
          Opens reached.instances invocation definition
            (ending (perform host operation) state))) ∧
    (¬ invocation.Legible → ∀ other, Invocation.parse name = .ok other → other.name ≠ name) ∧
    ∀ (host : Host) (state : State) force, state.current = none ∨ force = true →
      Registry.get state.registry name = .ok definition →
        Opens state.instances invocation definition
          (ending (perform host (.invoke (.fields (.text name) .null) force)) state) := by
  intro name invocation
  refine ⟨Registry.get_of_register accepted, Invocation.parse_eq_name_iff, ?_, ?_, ?_⟩
  · intro legible host state
    have read : Invocation.parse name = .ok invocation := Invocation.parse_eq_name_iff.mpr legible
    refine ⟨?_, ?_, ?_⟩
    · intro force opened known
      have sourced : InvocationSource.invocation (.text name) = .ok invocation := by
        rw [InvocationSource.invocation, read, mapError_ok]
      exact opens_invoke opened sourced known
    · intro number other next stageName reached directs known
      exact opens_directed directs read known stageName
    · intro contained sound operation reached redirected known
      exact opens_redirected contained sound redirected read known
  · intro lost other read
    exact Invocation.name_ne_of_parse read lost
  · intro host state force opened known
    exact opens_invoke opened rfl known

end Engine

/-! ## Signposts

A trip leads to a tour whose name has a parenthesis in it that is not closed. -/

namespace Signpost

def programs : Programs :=
  { behaviour := fun _ _ => .reply (.text "Tour (short") }

def host : Host := programs.host 1

theorem keepsToMapping (program : Nat) (occasion : Occasion) :
    (programs.behaviour program occasion).KeepsToMapping :=
  trivial

theorem contained : host.Contained :=
  Programs.contained_host keepsToMapping 1

def tour : Definition :=
  { name := "Tour (short"
    stages := [⟨"Look", none, .alwaysValid⟩]
    acceptor := .identityAcceptor
    redirector := none }

def trip : Definition :=
  { name := "Trip"
    stages := [⟨"Go", none, .alwaysValid⟩, ⟨"Return", none, .alwaysValid⟩]
    acceptor := .identityAcceptor
    redirector := some (.custom 0 .redirector "signpost" 0) }

def operations : List Operation :=
  [.register { name := "Tour (short", plan := "Look" },
    .register
      { name := "Trip", plan := "Go;Return", redirector := .custom 0 .redirector "signpost" },
    .invoke (.text "Trip") false]

/-- The state in which the trip waits for its first stage. -/
def going : State := Trace.final (Engine.perform host) Detour.start operations

theorem sound_going : going.Sound :=
  Engine.sound_final contained Detour.built.sound (by decide +kernel)

theorem known_going : Registry.get going.registry "Tour (short" = .ok tour :=
  eq_ok_of_toOption (by decide +kernel)

/-- The state in which the trip waits for its second stage, and its redirector is asked. -/
def returning : State :=
  ((going.finishing 0).detached.forwarded 0 .empty
    [.accepted 0 (some "Go") 0 .empty, .validating ⟨"Go", none, .alwaysValid⟩ 0 []]).dispatched
      "Return" none

theorem redirected_going : ∃ reached,
    Engine.Redirected host going (.complete .null) "Tour (short" reached ∧
      Registry.get reached.registry "Tour (short" = .ok tour := by
  have hears : going.Hears (.complete .null) 0 [] :=
    ⟨by decide +kernel, by rfl, .null, rfl, rfl⟩
  have defined : Registry.get going.registry "Trip" = .ok trip :=
    eq_ok_of_toOption (by decide +kernel)
  have stands : (going.finishing 0).detached.AtStage 0 (.ofInvocation ⟨"Trip", none⟩) trip
      ⟨"Go", none, .alwaysValid⟩ := ⟨⟨rfl, rfl, defined⟩, rfl⟩
  have quiet : Event.Quiet [.validating ⟨"Go", none, .alwaysValid⟩ 0 []] := rfl
  have advanced : Engine.Advanced host (going.finishing 0).detached [] 0
      (.ofInvocation ⟨"Trip", none⟩) trip ⟨"Go", none, .alwaysValid⟩ [] .empty returning :=
    ⟨stands, _, ⟨stands, _, quiet, rfl, rfl⟩, rfl⟩
  exact ⟨_, ⟨_, _, _, _, _, _, _, _, _, hears, advanced, ⟨_, _, rfl, rfl⟩, ⟨_, rfl⟩, _, _, rfl,
    rfl⟩, known_going⟩

end Signpost

/-- The tour is opened by its name from the start, in place of the trip and by the trip. -/
theorem Engine.opens_of_registered_signpost :
    (∃ altered, Registry.register [] { name := "Tour (short", plan := "Look" } =
        .ok (altered, Signpost.tour)) ∧
      Invocation.parse "Tour (short" = .ok ⟨"Tour (short", none⟩ ∧
      Opens Signpost.going.instances ⟨"Tour (short", none⟩ Signpost.tour
        (ending (perform Signpost.host (.invoke (.text "Tour (short") true)) Signpost.going) ∧
      ∃ reached, Redirected Signpost.host Signpost.going (.complete .null) "Tour (short" reached ∧
        Opens reached.instances ⟨"Tour (short", none⟩ Signpost.tour
          (ending (perform Signpost.host (.complete .null)) Signpost.going) := by
  have accepted : Registry.register [] { name := "Tour (short", plan := "Look" } =
      .ok ([("Tour (short", Signpost.tour)], Signpost.tour) := by rfl
  obtain ⟨reached, redirected, known⟩ := Signpost.redirected_going
  obtain ⟨-, read, leads, -⟩ := opens_of_registered accepted
  have legible : Invocation.Legible ⟨"Tour (short", none⟩ := by
    refine ⟨by decide +kernel, ?_⟩
    rintro ⟨closed, -⟩
    exact absurd closed (by decide +kernel)
  obtain ⟨opens, -, opensByRedirect⟩ := leads legible Signpost.host Signpost.going
  exact ⟨⟨_, accepted⟩, read.mpr legible, opens true (.inr rfl) Signpost.known_going, reached,
    redirected, opensByRedirect Signpost.contained Signpost.sound_going _ _ redirected known⟩

/-! ## Misread names

Names that are calls of another workflow, and names with blank space at their ends, are registered
like others. -/

namespace Signpost

/-- The state in which such names are registered, and nothing is invoked yet. -/
def crossroads : State := Trace.final (Engine.perform host) Detour.start
  [.register { name := "Trip", plan := "Go" }, .register { name := "Trip(to=Rome)", plan := "Fly" },
    .register { name := "Visit ", plan := "Look" }]

/-- One of the names starts another workflow, and another one is not known. -/
theorem misread_crossroads :
    let taken (text : String) :=
      Trace.take (Engine.perform host) crossroads (.invoke (.text text) false)
    crossroads.current = none ∧
      crossroads.registry.names = ["__CancelRequest", "Trip", "Trip(to=Rome)", "Visit "] ∧
      Invocation.parse "Trip(to=Rome)" = .ok ⟨"Trip", some [("to", "Rome")]⟩ ∧
      (taken "Trip(to=Rome)").after.instances = [.ofInvocation ⟨"Trip", some [("to", "Rome")]⟩] ∧
      (taken "Visit ").outcome = .error (.unknownWorkflow "Visit") := by
  refine ⟨?_, ?_, ?_, ?_, ?_⟩
  · decide +kernel
  · decide +kernel
  · exact eq_ok_of_toOption (by decide +kernel)
  · rfl
  · rfl

end Signpost

end Workflow
