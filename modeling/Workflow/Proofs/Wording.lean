import Workflow.Proofs.Agreement
import Workflow.Proofs.Showing

/-!
# The wording of a prompt

The message with which an output is rejected is the one argument of the prompt, whatever characters
it is made of.  A stage of the prompt is shown with texts of its own and with the message as it is:
nothing in the message is read as a binding, as a list or as a token once more.
-/

namespace Workflow

/-- What a token stands for in a prompt about a message, unless it refers to a value: a text of its
own, the message, or nothing. -/
def Token.wording (message token : String) : String :=
  match token.toList with
  | ':' :: text => String.ofList text
  | _ => if token = cancelErrorArgument then message else ""

namespace Stage

/-- No token of the stage refers to a value. -/
def Plain (stage : Stage) : Prop :=
  ∀ token ∈ stage.tokens.getD [], token.toList.head? ≠ some '!'

/-- The arguments of a stage in a prompt about a message. -/
def wording (message : String) (stage : Stage) : Option (List String) :=
  stage.tokens.map fun tokens => tokens.map (Token.wording message)

end Stage

/-- An instance was invoked with a message and with nothing else. -/
def Instance.Conveys (inst : Instance) (message : String) : Prop :=
  inst.arguments = some [(cancelErrorArgument, message)]

namespace Instance.Conveys

variable {inst : Instance} {message : String} (conveys : inst.Conveys message)
include conveys

theorem resolve_wording {token : String} (plain : token.toList.head? ≠ some '!') :
    (Token.classify token).resolve inst id "" = .ok (Token.wording message token) := by
  have bound :
      ((inst.arguments.bind fun bindings => Entries.lookup bindings token).map id).getD "" =
        if token = cancelErrorArgument then message else "" := by
    rw [conveys, Option.bind_some, Entries.lookup, List.find?_singleton]
    by_cases named : cancelErrorArgument = token
    · simp [named]
    · simp [named, Ne.symm named]
  rw [Token.classify]
  split
  · next text written => simp only [Token.wording, written, Token.resolve, id_eq]
  · next key written =>
    rw [written] at plain
    exact absurd rfl plain
  · next unmarked _ =>
    have worded : Token.wording message token =
        if token = cancelErrorArgument then message else "" := by
      unfold Token.wording
      split
      · next text written => exact absurd written (unmarked text)
      · rfl
    rw [Token.resolve, bound, worded]

/-- The arguments of a plain stage are its wording, whatever the instance has accumulated. -/
theorem resolveAll_wording {stage : Stage} (plain : stage.Plain) :
    Token.resolveAll inst id "" stage.tokens = .ok (stage.wording message) := by
  have listed (tokens : List String) (plain : ∀ token ∈ tokens, token.toList.head? ≠ some '!') :
      Token.resolveList inst id "" tokens = .ok (tokens.map (Token.wording message)) := by
    induction tokens with
    | nil => rfl
    | cons token rest ih =>
        obtain ⟨first, others⟩ := List.forall_mem_cons.mp plain
        simp only [Token.resolveList, conveys.resolve_wording first, ih others]
        rfl
  unfold Stage.Plain at plain
  rw [Stage.wording]
  cases declared : stage.tokens with
  | none => rfl
  | some tokens =>
      rw [declared] at plain
      rw [Token.resolveAll, listed tokens plain]
      rfl

end Instance.Conveys

/-- There is an instance of this workflow that was invoked with these arguments. -/
def State.Bound (number : Nat) (name : String) (arguments : Option Bindings) (state : State) :
    Prop :=
  ∃ inst, state.instances[number]? = some inst ∧ inst.name = name ∧ inst.arguments = arguments

namespace State.Bound

variable {state after : State} {number : Nat} {name : String} {arguments : Option Bindings}
  (bound : state.Bound number name arguments)
include bound

theorem still (same : after.instances = state.instances) :
    after.Bound number name arguments := by
  obtain ⟨inst, found, kept⟩ := bound
  exact ⟨inst, same ▸ found, kept⟩

theorem changing (other : Nat) {change : Instance → Instance}
    (same : ∀ inst, (change inst).name = inst.name ∧ (change inst).arguments = inst.arguments) :
    (state.changing other change).Bound number name arguments := by
  obtain ⟨inst, found, named, bound⟩ := bound
  obtain ⟨later, there, also, kept⟩ := (state.draws_changing other same).kept number inst found
  exact ⟨later, there, also.trans named, kept.trans bound⟩

end State.Bound

namespace Engine

variable {α : Type} {number : Nat} {name : String} {arguments : Option Bindings}

/-- Routine steps change neither the workflow of an instance nor what it was invoked with. -/
theorem Routine.keeps_bound {step : Engine α} (routine : Routine step) :
    Trace.Keeps (State.Bound number name arguments) step := by
  refine routine.keeps fun state after move bound => ?_
  cases move with
  | steady steady => exact bound.still steady.instances
  | begun invocation =>
      obtain ⟨inst, found, kept⟩ := bound
      exact ⟨inst, List.getElem?_append_left (List.getElem?_eq_some_iff.mp found).1 ▸ found, kept⟩
  | changed other same => exact bound.changing other same
  | aside grown => exact bound.still rfl
  | back lastAside now grown => exact bound.still rfl
  | rested => exact bound.still rfl

end Engine

namespace Engine

/-- The output of the stage at which the current instance stands is rejected by its validator with a
message.  The validator may have done anything to the engine before it answered, but it left it with
an instance that is current. -/
structure Objects (host : Host) (state : State) (operation : Operation) (message : String)
    (reached : State) : Prop where
  rejected : ∃ place payload number inst definition stage shown answer later,
    state.Tells operation place payload ∧ state.AtStage number inst definition stage ∧
      consult host stage.validator number .validate (.output payload)
        (state.finishing place).detached = .ok (shown, answer) reached ∧
      Verdict.ofAnswer answer = .ok ⟨false, .text message⟩ ∧
      reached.instances[number]? = some later
  active : ∃ top aside, reached.current = some top ∧ reached.instances[top]? = some aside
  remembers : reached.dispatcher.remembers = true

variable {host : Host} {state reached : State} {operation : Operation} {message : String}
  {number top : Nat} {inst aside : Instance} {definition prompt : Definition} {stage : Stage}

theorem judge_message {payload : Payload} {shown : Shown} {answer : Value}
    (consulted : consult host stage.validator number .validate (.output payload) state =
      .ok (shown, answer) reached)
    (said : Verdict.ofAnswer answer = .ok ⟨false, .text message⟩) :
    judge host number stage payload state =
      .ok (shown.payload, .error (.text message)) reached :=
  judge_eq_ok_iff.mpr ⟨shown, answer, _, consulted, said, rfl, rfl,
    fun _ same => Except.error.inj same ▸ rfl⟩

/-- A stage of an instance that conveys a message is dispatched with its wording. -/
theorem startStage_wording (stands : state.AtStage number inst definition stage)
    (conveys : inst.Conveys message) (plain : stage.Plain)
    (remembers : state.dispatcher.remembers = true) :
    startStage state = .ok () (state.dispatched stage.name (stage.wording message)) := by
  rw [startStage_apply stands.current stands.found stands.defined stands.there remembers,
    conveys.resolveAll_wording plain]

theorem remembers_diverted (remembers : state.dispatcher.remembers = true) (number : Nat)
    (inst : Instance) (invocation : Invocation) :
    (state.diverted number inst invocation).dispatcher.remembers = true := by
  simp only [State.diverted, State.begun, State.asided, State.detached]
  split <;> exact remembers

/-- What a rejection with a message leads to: the prompt is the latest instance and shows its first
stage. -/
theorem Objects.opened (objects : Objects host state operation message reached)
    (known : Registry.get reached.registry reached.settings.cancelWorkflow = .ok prompt)
    {opening : Stage} (opens : prompt.stage? 0 = some opening) (plain : opening.Plain) :
    ∃ top aside events, events.any Event.isShowing = false ∧
      ending (perform host operation) state = (none,
        ((reached.reporting events).diverted top aside
          ⟨reached.settings.cancelWorkflow, some [(cancelErrorArgument, message)]⟩).dispatched
            opening.name (opening.wording message)) := by
  obtain ⟨place, payload, number, inst, definition, stage, shown, answer, later, tells, stands,
    consulted, said, found⟩ := objects.rejected
  obtain ⟨top, aside, current, there⟩ := objects.active
  let name := definition.stageName? inst.stage
  let events : List Event := [.rejected number name later.stage (.text message)]
  let invocation : Invocation :=
    ⟨reached.settings.cancelWorkflow, some [(cancelErrorArgument, message)]⟩
  have finishing : (state.finishing place).AtStage number inst definition stage :=
    ⟨⟨stands.current, stands.found, stands.defined⟩, stands.there⟩
  have judged := judge_message consulted said
  have asking : ((reached.reporting events).diverted top aside invocation).AtStage
      reached.instances.length (Instance.ofInvocation invocation) prompt opening :=
    ⟨⟨rfl, List.getElem?_concat_length, known⟩, opens⟩
  have told := ending_bind_pure (reject number name (.text message)) (fun _ => shown.payload)
    reached
  refine ⟨top, aside, events, rfl, ?_⟩
  rw [ending_tells tells, ending, stageFinished_apply finishing, bind_apply, judged]
  refine told.trans ?_
  have worded : rejectionText (.text message) = .ok message := rfl
  rw [ending, reject_current_apply (writable_of_rejectionText worded) found current there known,
    worded]
  simp only
  rw [startStage_wording asking rfl plain
    (remembers_diverted objects.remembers top aside invocation)]

/-- From a state between two operations, a contained validator leads to a rejection with every
message that it answers with. -/
theorem objects_of_hears (contained : host.Contained) (sound : state.Sound) {place : Nat}
    {payload : Payload} (hears : state.Hears operation place payload)
    (stands : state.AtStage number inst definition stage) {shown : Shown} {answer : Value}
    (consulted : consult host stage.validator number .validate (.output payload)
      (state.finishing place).detached = .ok (shown, answer) reached)
    (said : Verdict.ofAnswer answer = .ok ⟨false, .text message⟩) :
    Objects host state operation message reached := by
  have judged := judge_message consulted said
  have grounded := (poised_finishing sound hears.held).toGrounded
  obtain ⟨events, -, kept⟩ := judge_reporting contained grounded number stage payload
  rw [judged] at kept
  obtain ⟨rfl, -⟩ := kept
  exact ⟨⟨place, payload, number, inst, definition, stage, shown, answer, inst,
    tells_of_hears sound hears, stands, consulted, said, stands.found⟩,
    ⟨number, inst, stands.current, stands.found⟩, grounded.remembers⟩

/-- Whatever is shown of an instance that conveys a message is worded with it, stage by stage of the
workflow that is registered at that time. -/
theorem worded_of_exhibits {before after : State} (exhibits : before.Exhibits after)
    {asking : Nat} {name : String}
    (bound : before.Bound asking name (some [(cancelErrorArgument, message)]))
    (known : Registry.get before.registry name = .ok definition) :
    ∃ shown, after.showings = shown ++ before.showings ∧
      ∀ showing ∈ shown, showing.inst = some asking → ∃ stage ∈ definition.stages,
        showing.stage = stage.name ∧ (stage.Plain → showing.arguments = stage.wording message) := by
  obtain ⟨inst, found, rfl, conveys⟩ := bound
  obtain ⟨later, there, sameName, sameArguments⟩ := exhibits.kept asking inst found
  obtain ⟨shown, grown, drawn⟩ := exhibits.shown
  refine ⟨shown, grown, ?_⟩
  intro showing member own
  obtain ⟨number, other, definedBy, stage, values, same, present, defined, among, named,
    resolved⟩ := drawn showing member
  cases own.symm.trans same
  cases there.symm.trans present
  rw [sameName, known] at defined
  cases defined
  refine ⟨stage, among, named, fun plain => ?_⟩
  have worded : Instance.Conveys { later with values } message := sameArguments.trans conveys
  rw [worded.resolveAll_wording plain] at resolved
  exact (Except.ok.inj resolved).symm

/-- A message with which a validator rejects an output is passed on as it is.  The prompt that opens
is invoked with the message and with nothing else, and no operation of any run changes that,
whatever hooks do inside it.  Its first stage is shown with the message wherever it asks for it,
with its own texts and with nothing for other parameters.  So is every stage of it without
references to values, whenever it is dispatched; and where hooks keep to their mappings, nothing
else of it is shown in any operation of a later run. -/
theorem message_verbatim (programs : Programs) (depth : Nat)
    (objects : Objects (programs.host depth) state operation message reached)
    (known : Registry.get reached.registry reached.settings.cancelWorkflow = .ok prompt)
    {opening : Stage} (opens : prompt.stage? 0 = some opening) (plain : opening.Plain) :
    let host := programs.host depth
    let taken := Trace.take (perform host) state operation
    let asking := reached.instances.length
    let name := reached.settings.cancelWorkflow
    let arguments := some [(cancelErrorArgument, message)]
    (taken.outcome.isOk = true ∧ taken.after.current = some asking ∧
      taken.after.instances[asking]? = some (Instance.ofInvocation ⟨name, arguments⟩) ∧
      taken.after.showings =
        ⟨some asking, opening.name, opening.wording message⟩ :: reached.showings ∧
      ∃ place handle, taken.after.held = some place ∧
        taken.after.dispatcher.handles[place]? = some handle ∧
        handle.stage = opening.name ∧ handle.arguments = opening.wording message) ∧
    (∀ operations, (Trace.final (perform host) taken.after operations).Bound asking name
      arguments) ∧
    (∀ (later : State) inst definition stage, later.AtStage asking inst definition stage →
      inst.arguments = arguments → stage.Plain → later.dispatcher.remembers = true →
      startStage later = .ok () (later.dispatched stage.name (stage.wording message))) ∧
    (host.Contained → state.Sound →
      ∀ operations, (∀ operation ∈ operations, operation.controls = true) →
      ∀ further ∈ Trace.run (perform host) taken.after operations,
      ∀ definition, Registry.get further.before.registry name = .ok definition →
      ∃ shown, further.after.showings = shown ++ further.before.showings ∧
        ∀ showing ∈ shown, showing.inst = some asking → ∃ stage ∈ definition.stages,
          showing.stage = stage.name ∧
            (stage.Plain → showing.arguments = stage.wording message)) := by
  intro host taken asking name arguments
  obtain ⟨top, aside, events, silent, ended⟩ := objects.opened known opens plain
  let invocation : Invocation := ⟨name, arguments⟩
  let begun := (reached.reporting events).diverted top aside invocation
  have after : taken.after = begun.dispatched opening.name (opening.wording message) := by
    rw [after_take, ended]
  have found : taken.after.instances[asking]? = some (Instance.ofInvocation invocation) := by
    rw [after]
    exact List.getElem?_concat_length
  have bound : taken.after.Bound asking name arguments := ⟨_, found, rfl, rfl⟩
  refine ⟨⟨?_, ?_, found, ?_, ?_⟩, ?_, ?_, ?_⟩
  · rw [← outcome_take, ended]
  · rw [after]
    rfl
  · have silently : begun.showings = reached.showings :=
      Event.showings_append silent reached.journal
    rw [after, State.showings_dispatched, silently]
    rfl
  · rw [after]
    exact ⟨_, _, rfl, List.getElem?_concat_length, rfl, rfl⟩
  · exact programs.keeps_final Routine.keeps_bound depth bound
  · intro later inst definition stage stands conveys plain remembers
    exact startStage_wording stands conveys plain remembers
  · intro contained sound operations controls further member definition known
    obtain ⟨place, payload, -, -, -, -, -, -, -, tells, -⟩ := objects.rejected
    obtain ⟨given, -⟩ := output_of_completed tells.completed
    have controlled : operation.controls = true := by
      cases operation <;> first | rfl | cases given
    have passage := take_passage contained sound controlled
    obtain ⟨exhibits, inst, there, named, kept⟩ := exhibits_of_mem_run contained
      (passage.sound contained sound) controls found member
    exact worded_of_exhibits exhibits ⟨inst, there, named, kept⟩ known

end Engine

/-! ## A form

A form is filled, and what is filled in is rejected with a message that looks like much of what is
read elsewhere: a text of its own, a list, a binding, a call and a reference. -/

namespace Objection

def message : String := ":seat, row=(3)\n!error "

def programs : Programs :=
  { behaviour := fun _ _ => .reply (.tuple [.bool false, .text message]) }

def host : Host := programs.host 1

theorem keepsToMapping (program : Nat) (occasion : Occasion) :
    (programs.behaviour program occasion).KeepsToMapping :=
  trivial

theorem contained : host.Contained :=
  Programs.contained_host keepsToMapping 1

def asking : Option String := some "Why(error,:error,name);Again(:of,error)"

def start : State := (Engine.ending (Engine.initial {} asking) {}).2

theorem built : start.FreshlyBuilt := ⟨[], {}, asking, .inMemory, 0, rfl⟩

def operations : List Operation :=
  [.register { name := "Form", plan := "Fill", validators := [.custom 0 .validator "strict"] },
    .invoke (.text "Form") false]

/-- The state in which the form waits to be filled. -/
def filling : State := Trace.final (Engine.perform host) start operations

theorem sound_filling : filling.Sound :=
  Engine.sound_final contained built.sound (by decide)

def fill : Stage := ⟨"Fill", none, .custom 0 .validator "strict" 0⟩

def form : Definition :=
  { name := "Form", stages := [fill], acceptor := .identityAcceptor, redirector := none }

def why : Stage := ⟨"Why", some ["error", ":error", "name"], .alwaysValid⟩

def prompt : Definition :=
  { name := "__CancelRequest"
    stages := [why, ⟨"Again", some [":of", "error"], .alwaysValid⟩]
    acceptor := .cancelDecision
    redirector := none }

/-- The state in which the validator of the form has answered. -/
def answered : State :=
  (filling.finishing 0).detached.reporting
    [.consulted (.custom 0 .validator "strict" 0) (some (0, .validate)) [.dict []]]

theorem objects_filling : Engine.Objects host filling (.complete .null) message answered := by
  have hears : filling.Hears (.complete .null) 0 [] :=
    ⟨by decide +kernel, by rfl, .null, rfl, rfl⟩
  have defined : Registry.get filling.registry "Form" = .ok form :=
    eq_ok_of_toOption (by decide +kernel)
  have stands : filling.AtStage 0 (.ofInvocation ⟨"Form", none⟩) form fill :=
    ⟨⟨rfl, rfl, defined⟩, rfl⟩
  exact Engine.objects_of_hears contained sound_filling hears stands rfl rfl

end Objection

/-- The prompt about the form asks why, and then again, with the message as it is. -/
theorem Engine.message_verbatim_filling :
    let taken := Trace.take (perform Objection.host) Objection.filling (.complete .null)
    let arguments := some [("error", Objection.message)]
    taken.outcome.isOk = true ∧ taken.after.current = some 1 ∧
      taken.after.showings.head? =
        some ⟨some 1, "Why", some [Objection.message, "error", ""]⟩ ∧
      (∀ operations, (Trace.final (perform Objection.host) taken.after operations).Bound 1
        "__CancelRequest" arguments) ∧
      (Trace.final (perform Objection.host) taken.after [.complete .null]).showings.head? =
        some ⟨some 1, "Again", some ["of", Objection.message]⟩ ∧
      ∀ operations, (∀ operation ∈ operations, operation.controls = true) →
        ∀ further ∈ Trace.run (perform Objection.host) taken.after operations,
        ∀ definition, Registry.get further.before.registry "__CancelRequest" = .ok definition →
        ∃ shown, further.after.showings = shown ++ further.before.showings ∧
          ∀ showing ∈ shown, showing.inst = some 1 → ∃ stage ∈ definition.stages,
            showing.stage = stage.name ∧
              (stage.Plain → showing.arguments = stage.wording Objection.message) := by
  have numbered : Objection.answered.instances.length = 1 := by decide +kernel
  have named : Objection.answered.settings.cancelWorkflow = "__CancelRequest" := by decide +kernel
  have known : Registry.get Objection.answered.registry
      Objection.answered.settings.cancelWorkflow = .ok Objection.prompt :=
    eq_ok_of_toOption (by decide +kernel)
  have opens : Objection.prompt.stage? 0 = some Objection.why := rfl
  have plain : Objection.why.Plain := by
    unfold Stage.Plain
    decide
  have worded : Objection.why.wording Objection.message =
      some [Objection.message, "error", ""] := by decide
  have verbatim := message_verbatim Objection.programs 1 Objection.objects_filling known opens plain
  rw [show Objection.programs.host 1 = Objection.host from rfl] at verbatim
  simp only [numbered, named, worded] at verbatim
  obtain ⟨⟨returned, current, -, shown, -⟩, bound, -, run⟩ := verbatim
  refine ⟨returned, current, ?_, bound, ?_, run Objection.contained Objection.sound_filling⟩
  · rw [shown]
    rfl
  · decide +kernel

end Workflow
