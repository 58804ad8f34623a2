import Workflow.Proofs.Course
import Workflow.Proofs.Storing

/-!
# What is shown

Every stage that is shown belongs to the instance that came up just before: one that was invoked,
one whose output was accepted, or one that was restored.  The arguments with which it is shown are
those for which its tokens stand in that instance, by the definition that is registered when the
operation begins.
-/

namespace Workflow

/-- The instance whose stage comes next, if one is dispatched. -/
def Event.upcoming? : Event → Option Nat
  | .invoking number _ | .accepted number _ _ _ | .restoring number _ _ => some number
  | _ => none

/-- Whether an event shows a stage. -/
def Event.isShowing : Event → Bool
  | .activated _ _ => true
  | _ => false

/-- A stage that was shown with its arguments, after an instance had come up. -/
structure Showing where
  inst : Option Nat
  stage : String
  arguments : Option (List String)
  deriving DecidableEq, Repr

/-- The stages that events show, the latest first. -/
def Event.showings : List Event → List Showing
  | [] => []
  | .activated stage arguments :: earlier =>
    ⟨earlier.head?.bind Event.upcoming?, stage, arguments⟩ :: showings earlier
  | _ :: earlier => showings earlier

theorem Event.showings_append {events : List Event} (silent : events.any isShowing = false)
    (earlier : List Event) : showings (events ++ earlier) = showings earlier := by
  induction events with
  | nil => rfl
  | cons event rest ih =>
      simp only [List.any_cons, Bool.or_eq_false_iff] at silent
      have others := ih silent.2
      cases event with
      | activated stage arguments => cases silent.1
      | _ => exact others

theorem Backend.silent_displayed (backend : Backend) (line : String) :
    (backend.displayed line).any Event.isShowing = false := by
  cases backend <;> rfl

/-- Tokens stand for the same in instances with the same arguments and values. -/
theorem Token.resolveAll_congr {α : Type} {inst other : Instance}
    (arguments : other.arguments = inst.arguments) (values : other.values = inst.values)
    (ofText : String → α) (default : α) (tokens : Option (List String)) :
    resolveAll other ofText default tokens = resolveAll inst ofText default tokens := by
  cases tokens with
  | none => rfl
  | some tokens =>
      have listed :
          resolveList other ofText default tokens = resolveList inst ofText default tokens :=
        resolveList_congr (fun key _ => by rw [values])
          (fun name _ _ => by rw [Instance.binding?, Instance.binding?, arguments])
      rw [resolveAll, resolveAll, listed]

/-- A stage of an instance was shown with the arguments for which its tokens stand, given what the
instance was invoked with and some values. -/
def Showing.Drawn (showing : Showing) (registry : Registry) (instances : List Instance) : Prop :=
  ∃ number inst definition stage values, showing.inst = some number ∧
    instances[number]? = some inst ∧ Registry.get registry inst.name = .ok definition ∧
    stage ∈ definition.stages ∧ showing.stage = stage.name ∧
    Token.resolveAll { inst with values } id "" stage.tokens = .ok showing.arguments

namespace State

/-- The stages that were shown, the latest first. -/
def showings (state : State) : List Showing :=
  Event.showings state.journal

/-- These are the instances of a state and the stages that were shown. -/
structure Presents (instances : List Instance) (shown : List Showing) (state : State) : Prop where
  instances : state.instances = instances
  showings : state.showings = shown

/-- Instances keep their workflows and their arguments, and whatever is shown on the way belongs to
one of them. -/
structure Exhibits (before after : State) : Prop where
  kept : ∀ (number : Nat) (inst : Instance), before.instances[number]? = some inst →
    ∃ later, after.instances[number]? = some later ∧ later.name = inst.name ∧
      later.arguments = inst.arguments
  shown : ∃ shown, after.showings = shown ++ before.showings ∧
    ∀ showing ∈ shown, showing.Drawn before.registry after.instances

/-- No workflow is registered in between. -/
structure Draws (before after : State) : Prop extends before.Exhibits after where
  registry : after.registry = before.registry

variable {before middle after : State}

theorem Exhibits.of_silent (instances : after.instances = before.instances)
    (showings : after.showings = before.showings) : before.Exhibits after where
  kept := by
    intro number inst found
    exact ⟨inst, instances ▸ found, rfl, rfl⟩
  shown := ⟨[], showings, nofun⟩

/-- What was drawn from an instance is drawn from it as long as it keeps its arguments. -/
theorem Exhibits.drawn (later : before.Exhibits after) {showing : Showing} {registry : Registry}
    (drawn : showing.Drawn registry before.instances) : showing.Drawn registry after.instances := by
  obtain ⟨number, inst, definition, stage, values, own, found, defined, member, named, resolved⟩ :=
    drawn
  obtain ⟨last, there, sameName, sameArguments⟩ := later.kept number inst found
  refine ⟨number, last, definition, stage, values, own, there, sameName ▸ defined, member, named,
    ?_⟩
  rw [← resolved]
  exact @Token.resolveAll_congr _ { inst with values } { last with values } sameArguments rfl id ""
    stage.tokens

namespace Draws

theorem of_silent (registry : after.registry = before.registry)
    (instances : after.instances = before.instances)
    (showings : after.showings = before.showings) : before.Draws after :=
  ⟨.of_silent instances showings, registry⟩

theorem refl (state : State) : state.Draws state :=
  .of_silent rfl rfl rfl

theorem trans (earlier : before.Draws middle) (later : middle.Draws after) : before.Draws after
    where
  kept := by
    intro number inst found
    obtain ⟨between, there, named, bound⟩ := earlier.kept number inst found
    obtain ⟨last, present, alsoNamed, alsoBound⟩ := later.kept number between there
    exact ⟨last, present, alsoNamed.trans named, alsoBound.trans bound⟩
  shown := by
    obtain ⟨first, before, drawnFirst⟩ := earlier.shown
    obtain ⟨second, after, drawnSecond⟩ := later.shown
    refine ⟨second ++ first, by rw [after, before, List.append_assoc], ?_⟩
    intro showing member
    rcases List.mem_append.mp member with new | old
    · exact earlier.registry ▸ drawnSecond showing new
    · exact later.toExhibits.drawn (drawnFirst showing old)
  registry := later.registry.trans earlier.registry

end Draws

variable (state : State)

theorem draws_reporting {events : List Event} (silent : events.any Event.isShowing = false) :
    state.Draws (state.reporting events) :=
  .of_silent rfl rfl (Event.showings_append silent state.journal)

theorem draws_changing (number : Nat) {change : Instance → Instance}
    (same : ∀ inst, (change inst).name = inst.name ∧ (change inst).arguments = inst.arguments) :
    state.Draws (state.changing number change) where
  kept := by
    intro other inst found
    refine ⟨if number = other then change inst else inst, ?_, ?_⟩
    · simp only [changing, List.getElem?_modify, found]
      split <;> rfl
    · split
      · exact same inst
      · exact ⟨rfl, rfl⟩
  shown := ⟨[], rfl, nofun⟩
  registry := rfl

theorem draws_editing (number : Nat) (edit : ValueMap → ValueMap) :
    state.Draws (state.editing number edit) :=
  state.draws_changing number fun _ => ⟨rfl, rfl⟩

theorem draws_detached : state.Draws state.detached :=
  .of_silent rfl rfl rfl

theorem draws_finishing (number : Nat) : state.Draws (state.finishing number) :=
  .of_silent rfl rfl rfl

theorem draws_forwarded (number : Nat) (values : ValueMap) {events : List Event}
    (silent : events.any Event.isShowing = false) :
    state.Draws (state.forwarded number values events) := by
  have moved : state.Draws
      (state.changing number fun inst => { inst with values, stage := inst.stage + 1 }) :=
    state.draws_changing number fun _ => ⟨rfl, rfl⟩
  exact moved.trans (draws_reporting _ silent)

theorem draws_asided (number : Nat) (inst : Instance) : state.Draws (state.asided number inst) :=
  .of_silent rfl rfl rfl

theorem draws_begun (invocation : Invocation) : state.Draws (state.begun invocation) where
  kept := by
    intro number inst found
    exact ⟨inst, List.getElem?_append_left (List.getElem?_eq_some_iff.mp found).1 ▸ found, rfl, rfl⟩
  shown := ⟨[], rfl, nofun⟩
  registry := rfl

theorem draws_diverted (number : Nat) (inst : Instance) (invocation : Invocation) :
    state.Draws (state.diverted number inst invocation) :=
  state.draws_detached.trans
    ((state.detached.draws_asided number inst).trans (draws_begun _ invocation))

theorem draws_rested : state.Draws state.rested := by
  refine .of_silent rfl rfl ?_
  exact Event.showings_append (state.dispatcher.backend.silent_displayed _)
    (.deactivated :: state.journal)

theorem draws_abandoned (number : Nat) (inst : Instance) (rest : List (Option Nat)) :
    state.Draws (state.abandoned number inst rest) :=
  .of_silent rfl rfl rfl

theorem draws_recalled (number : Nat) (inst : Instance) (rest : List (Option Nat)) :
    state.Draws (state.recalled number inst rest) :=
  .of_silent rfl rfl rfl

theorem draws_restored (number : Nat) (inst : Instance) (rest : List (Option Nat))
    (values : ValueMap) : state.Draws (state.restored number inst rest values) :=
  ((state.draws_recalled number inst rest).trans (draws_editing _ number _)).trans
    (draws_reporting _ rfl)

theorem draws_exiting (number : Nat) (inst : Instance) :
    state.Draws (state.exiting number inst) := by
  have marked : state.Draws
      (state.changing number fun inst => { inst with state := .finished }) :=
    state.draws_changing number fun _ => ⟨rfl, rfl⟩
  exact marked.trans (draws_reporting _ rfl)

/-- The instance that is current came up just before. -/
def Announced (state : State) : Prop :=
  state.journal.head?.bind Event.upcoming? = state.current

/-- What is dispatched belongs to the instance that came up just before. -/
theorem showings_dispatched (stage : String) (arguments : Option (List String)) :
    (state.dispatched stage arguments).showings =
      ⟨state.journal.head?.bind Event.upcoming?, stage, arguments⟩ :: state.showings :=
  Event.showings_append (state.dispatcher.backend.silent_displayed _)
    (.activated stage arguments :: state.journal)

variable {state : State}

theorem Started.draws {result : Option Failure × State} (started : state.Started result)
    (announced : state.Announced) : state.Draws result.2 := by
  cases started with
  | failed => exact .refl state
  | @dispatched number inst definition stage arguments stands resolved =>
      have shown := state.showings_dispatched stage.name arguments
      refine ⟨⟨fun _ inst found => ⟨inst, found, rfl, rfl⟩, [_], shown, ?_⟩, rfl⟩
      intro showing member
      rw [List.mem_singleton.mp member]
      exact ⟨number, inst, definition, stage, inst.values, announced.trans stands.current,
        stands.found, stands.defined, Definition.mem_of_stage? stands.there, rfl, resolved⟩

end State

/-- What a hook does to its mapping shows nothing. -/
theorem Shown.Touched.draws {shown : Shown} {state reached : State}
    (touched : shown.Touched state reached) : state.Draws reached := by
  obtain ⟨edit, remarks, plain, rfl⟩ := touched
  have silent : remarks.any Event.isShowing = false := by
    rw [List.any_eq_false]
    intro event member
    have remark := plain event member
    cases event <;> first | exact Bool.false_ne_true | cases remark
  cases shown with
  | output payload => exact state.draws_reporting silent
  | values number => exact (state.draws_editing number edit).trans (State.draws_reporting _ silent)

namespace Engine

variable {α β : Type} {host : Host} {state : State} {number : Nat} {inst : Instance}
  {definition : Definition} {stage : Stage} {payload : Payload}

theorem reached_of_ok {step : Engine α} {answer : α} {reached : State}
    (ends : step state = .ok answer reached) : (ending step state).2 = reached := by
  rw [ending, ends]

theorem reached_of_error {step : Engine α} {failure : Failure} {reached : State}
    (ends : step state = .error failure reached) : (ending step state).2 = reached := by
  rw [ending, ends]

theorem draws_bind {step : Engine α} {next : α → Engine β}
    (first : state.Draws (ending step state).2)
    (rest : ∀ answer reached, step state = .ok answer reached →
      reached.Draws (ending (next answer) reached).2) :
    state.Draws (ending (step >>= next) state).2 := by
  simp only [ending, bind_apply] at first ⊢
  cases reached : step state with
  | error failure after =>
      rw [reached] at first
      exact first
  | ok answer after =>
      rw [reached] at first
      exact first.trans (rest answer after reached)

theorem draws_lift (answer : Except Failure α) : state.Draws (ending (lift answer) state).2 := by
  cases answer <;> exact .refl state

/-- A hook of a contained host that is consulted shows nothing. -/
theorem draws_consult (contained : host.Contained) (numbered : state.Numbered) (hook : Hook)
    (inst : Nat) (question : Question) (shown : Shown)
    (there : ∀ number, shown = .values number → number < state.instances.length) :
    state.Draws (ending (consult host hook inst question shown) state).2 := by
  have outcome := consultation_consult contained numbered hook inst question shown there
  have asked : state.Draws (state.consulting hook inst question shown) :=
    state.draws_reporting rfl
  rw [ending]
  generalize consult host hook inst question shown state = result at outcome ⊢
  cases outcome with
  | refused => exact .refl state
  | answered touched keeps => exact asked.trans touched.draws
  | failed touched => exact asked.trans touched.draws
  | declined single declines lastAside found => exact asked.trans (State.draws_abandoned _ _ _ _)

theorem draws_judge (contained : host.Contained) (grounded : state.Grounded) (number : Nat)
    (stage : Stage) (payload : Payload) :
    state.Draws (ending (judge host number stage payload) state).2 :=
  draws_bind (draws_consult contained grounded.toNumbered stage.validator number .validate
    (.output payload) nofun) fun _ _ _ => draws_bind (draws_lift _) fun _ _ _ =>
      draws_bind (draws_lift _) fun _ reached _ => .refl reached

theorem draws_advise (contained : host.Contained) (grounded : state.Grounded)
    (current : state.current = some number) (definition : Definition) (reached : Int) :
    state.Draws (ending (advise host number definition reached) state).2 := by
  simp only [advise]
  cases definition.redirector with
  | none => exact .refl state
  | some redirector =>
      refine draws_bind (draws_consult contained grounded.toNumbered redirector number _
        (.values number) ?_) fun _ _ _ => draws_lift _
      intro other same
      cases same
      exact grounded.current_lt number current

theorem draws_accept (contained : host.Contained) (grounded : state.Grounded)
    (runs : state.Runs number inst definition) :
    state.Draws (ending (consult host definition.acceptor number .accept (.values number))
      (state.exiting number inst)).2 := by
  have exiting := grounded.exiting number inst
  refine (state.draws_exiting number inst).trans
    (draws_consult contained exiting.toNumbered definition.acceptor number .accept _ ?_)
  intro other same
  cases same
  exact exiting.current_lt number runs.current

theorem Concluded.draws (contained : host.Contained) (grounded : state.Grounded)
    {contribution : Value} {answered : State}
    (concluded : Concluded host state number inst definition contribution answered) :
    state.Draws answered := by
  obtain ⟨other, asked⟩ := concluded.asked
  exact reached_of_ok asked ▸ draws_accept contained grounded concluded.toRuns

theorem draws_round (contained : host.Contained) (grounded : state.Grounded) {answered : State}
    {top : Nat} {resumed : Instance} {rest : List (Option Nat)} {values : ValueMap}
    {contribution : Value}
    (concluded : Concluded host state number inst definition contribution answered) :
    state.Draws (answered.restored top resumed rest values) :=
  (concluded.draws contained grounded).trans (answered.draws_restored top resumed rest values)

/-- Only the stage of the instance that goes on in the end is shown in an exit. -/
theorem Exit.draws (contained : host.Contained) {result : Option Failure × State}
    (exits : Exit host state result) (poised : state.Poised) : state.Draws result.2 := by
  induction exits with
  | unanswered runs asked =>
      exact reached_of_error asked ▸ draws_accept contained poised.toGrounded runs
  | rested concluded empty =>
      exact (concluded.draws contained poised.toGrounded).trans (State.draws_rested _)
  | @unmerged state answered number top inst resumed definition contribution rest fault values
      concluded lastAside there merged =>
      have edited := (answered.recalled top resumed rest).draws_editing top fun _ => values
      exact (concluded.draws contained poised.toGrounded).trans
        ((answered.draws_recalled top resumed rest).trans edited)
  | continued concluded restoring past further ih =>
      exact (draws_round contained poised.toGrounded concluded).trans
        (ih (poised_round contained poised concluded restoring))
  | dispatched concluded restoring unfinished =>
      exact (draws_round contained poised.toGrounded concluded).trans
        ((started_round contained poised concluded restoring).draws rfl)

theorem Accepts.draws (contained : host.Contained) (grounded : state.Grounded) {left : Payload}
    {staged : ValueMap} {moved : State}
    (accepts : Accepts host state payload number inst definition stage left staged moved) :
    state.Draws moved := by
  obtain ⟨events, -, judged, rfl⟩ := accepts.judged
  have draws := draws_judge contained grounded number stage payload
  rw [reached_of_ok judged] at draws
  have moved := (state.reporting events).draws_forwarded number (inst.values.merged staged)
    (show [.accepted number (definition.stageName? inst.stage) inst.stage staged].any
      Event.isShowing = false from rfl)
  exact draws.trans moved

/-- The next stage of an instance whose output was accepted is the one that is shown. -/
theorem Advanced.draws (contained : host.Contained) (grounded : state.Grounded) {left : Payload}
    {staged : ValueMap} {advanced : State}
    (accepted : Advanced host state payload number inst definition stage left staged advanced) :
    state.Draws advanced := by
  obtain ⟨moved, accepts, started⟩ := accepted.accepted
  have draws := accepts.draws contained grounded
  obtain ⟨events, -, -, rfl⟩ := accepts.judged
  rw [startNext] at started
  split at started
  · have dispatch := startStage_ending
      (grounded.forwarded number (inst.values.merged staged)
        (.accepted number (definition.stageName? inst.stage) inst.stage staged :: events))
      (accepted.toRuns.forwarded (inst.values.merged staged) _)
    have shown := dispatch.draws accepted.current.symm
    rw [reached_of_ok started] at shown
    exact draws.trans shown
  · cases started
    exact draws

/-- Whatever the redirector does, it shows nothing. -/
theorem Advanced.draws_advised (contained : host.Contained) (grounded : state.Grounded)
    {left : Payload} {staged : ValueMap} {advanced reached : State}
    (accepted : Advanced host state payload number inst definition stage left staged advanced)
    (ends : (ending (advise host number definition (inst.stage + 1)) advanced).2 = reached) :
    state.Draws reached := by
  have forwarded := accepted.forwarded grounded
  obtain ⟨values, runs⟩ := forwarded.runs accepted.toRuns
  have advised := draws_advise contained (forwarded.grounded grounded) runs.current definition
    (inst.stage + 1)
  rw [ends] at advised
  exact (accepted.draws contained grounded).trans advised

theorem draws_diverted (grounded : state.Grounded) {other : Definition} {invocation : Invocation}
    (found : state.instances[number]? = some inst)
    (known : Registry.get state.registry invocation.name = .ok other) :
    state.Draws (ending startStage (state.diverted number inst invocation)).2 :=
  (state.draws_diverted number inst invocation).trans
    ((diverted_started grounded found known).draws rfl)

/-- Whatever a completion shows belongs to an instance. -/
theorem Course.draws (contained : host.Contained) {result : Option Failure × State}
    (course : Course host state payload result) (poised : state.Poised) :
    state.Draws result.2 := by
  have grounded := poised.toGrounded
  cases course with
  | missing runs absent => exact .refl state
  | @unjudged number inst definition stage failure events stands failed =>
      exact reached_of_error failed ▸ draws_judge contained grounded number stage payload
  | @unworded number inst definition stage left error failure events stands judged wordless =>
      have draws := draws_judge contained grounded number stage payload
      rw [reached_of_ok judged] at draws
      exact (draws.trans (State.draws_reporting _ rfl)).trans (State.draws_asided _ _ _)
  | @prompted number inst definition stage left error text events stands judged worded =>
      have draws := draws_judge contained grounded number stage payload
      rw [reached_of_ok judged] at draws
      obtain ⟨cancel, known⟩ := grounded.cancel_known
      exact (draws.trans (State.draws_reporting _ rfl)).trans
        (draws_diverted ((grounded.reporting _).reporting _) stands.found known)
  | stuck accepted there lacks failed => exact accepted.draws contained grounded
  | unadvised accepted failed =>
      exact accepted.draws_advised contained grounded (reached_of_error failed)
  | unknown accepted advised absent =>
      exact accepted.draws_advised contained grounded (reached_of_ok advised)
  | redirected accepted advised known found =>
      have draws := accepted.draws_advised contained grounded (reached_of_ok advised)
      have reached :=
        (accepted.reaches contained grounded (reached_of_ok advised)).grounded grounded
      exact (draws.trans (State.draws_reporting _ rfl)).trans
        (draws_diverted (reached.reporting _) found known)
  | carried accepted advised unfinished =>
      exact accepted.draws_advised contained grounded (reached_of_ok advised)
  | ended accepted advised past quiet stops exits =>
      have draws := accepted.draws_advised contained grounded (reached_of_ok advised)
      subst stops
      exact draws.trans (exits.draws contained (poised.forwarded _ _ _))

/-! ## Registering shows nothing -/

section Registering

open Trace

variable {instances : List Instance} {shown : List Showing}

theorem keeps_silently {change : State → State} (same : ∀ state : State,
    (change state).instances = state.instances ∧ (change state).showings = state.showings) :
    Keeps (State.Presents instances shown) (modify change : Engine Unit) :=
  keeps_of fun state held =>
    ⟨(same state).1.trans held.instances, (same state).2.trans held.showings⟩

theorem keeps_note {event : Event} (silent : event.isShowing = false) :
    Keeps (State.Presents instances shown) (note event) := by
  refine keeps_silently fun state => ⟨rfl, ?_⟩
  have single : [event].any Event.isShowing = false := by simp [silent]
  exact Event.showings_append single state.journal

theorem keeps_lift (answer : Except Failure α) :
    Keeps (State.Presents instances shown) (lift answer) := by
  cases answer with
  | ok answer => exact keeps_pure answer
  | error failure => exact keeps_throw failure

theorem keeps_hookOf (host : Host) (source : HookSource) :
    Keeps (State.Presents instances shown) (hookOf host source) := by
  cases source with
  | default => exact keeps_pure none
  | path path => exact (keeps_lift _).bind fun hook => keeps_pure (some hook)
  | custom program role name =>
      exact AgreeOn.bind (keeps_of fun _ held => held) fun state =>
        AgreeOn.bind (keeps_silently fun _ => ⟨rfl, rfl⟩) fun _ => keeps_pure _

theorem keeps_hooksOf (host : Host) (sources : List HookSource) :
    Keeps (State.Presents instances shown) (hooksOf host sources) := by
  induction sources with
  | nil => exact keeps_pure []
  | cons source rest ih =>
      exact (keeps_hookOf host source).bind fun _ => ih.bind fun _ => keeps_pure _

theorem keeps_register (registration : Registration) :
    Keeps (State.Presents instances shown) (register registration) := by
  have entered (registry : Registry) (definition : Definition) :
      Keeps (State.Presents instances shown) (do
        modify fun state => { state with registry }
        note (.registered definition.name definition.stageNames)
        return definition : Engine Definition) :=
    AgreeOn.bind (keeps_silently fun _ => ⟨rfl, rfl⟩) fun _ =>
      (keeps_note rfl).bind fun _ => keeps_pure _
  unfold register
  refine AgreeOn.ite (AgreeOn.bind (keeps_note rfl) fun _ => ?_) ?_
  all_goals
    refine AgreeOn.bind (keeps_of fun _ held => held) fun before =>
      (keeps_lift _).bind fun answer => ?_
    exact AgreeOn.ite (AgreeOn.bind (keeps_note rfl) fun _ => entered answer.1 answer.2)
      (entered answer.1 answer.2)

/-- Registering a workflow shows nothing. -/
theorem exhibits_register (request : RegistrationRequest) :
    state.Exhibits (ending (perform host (.register request)) state).2 := by
  have same : ending (perform host (.register request)) state =
      ending (registerRequested host request) state :=
    ending_bind_pure (registerRequested host request) Answer.definition state
  have registers : Keeps (State.Presents state.instances state.showings)
      (registerRequested host request) :=
    (keeps_hookOf host _).bind fun _ => (keeps_hookOf host _).bind fun _ =>
      (keeps_hooksOf host _).bind fun _ => keeps_register _
  obtain ⟨-, presents⟩ := registers state ⟨rfl, rfl⟩
  rw [same, ending]
  rw [outcomeOf] at presents
  cases reached : registerRequested host request state with
  | ok answer after =>
      rw [reached] at presents
      exact .of_silent presents.instances presents.showings
  | error failure after =>
      rw [reached] at presents
      exact .of_silent presents.instances presents.showings

end Registering

/-- An operation that controls an engine shows stages of instances only. -/
theorem exhibits_perform (contained : host.Contained) (sound : state.Sound)
    {operation : Operation} (controls : operation.controls = true) :
    state.Exhibits (ending (perform host operation) state).2 := by
  have passage := perform_passage contained sound controls
  generalize ends : ending (perform host operation) state = result at passage ⊢
  cases passage with
  | refused refusal => exact (State.Draws.refl state).toExhibits
  | @registered request failure? registry stamp events quiet kept =>
      rw [← ends]
      exact exhibits_register request
  | @invoked source force invocation reached admitted started =>
      have began := state.draws_detached.trans (state.detached.draws_begun invocation)
      exact ((began.trans (started.draws rfl)).trans (State.draws_reporting _ rfl)).toExhibits
  | stranded admitted =>
      exact (state.draws_detached.trans (state.detached.draws_begun _)).toExhibits
  | unheard completed unheld unread => exact (state.draws_finishing _).toExhibits
  | @completed operation number result completed held completion told =>
      obtain ⟨output, payload, given, read, same⟩ := told
      obtain ⟨current, running⟩ := Option.ne_none_iff_exists'.mp (sound.runs_held number held)
      have course := stageFinished_course contained (grounded_finishing sound.toGrounded number)
        running payload
      rw [← same] at course
      have released := (state.draws_finishing number).trans (State.draws_detached _)
      exact (released.trans (course.draws contained (poised_finishing sound held))).toExhibits

/-- Every operation of a run shows stages of instances only, and instances keep their workflows and
their arguments up to it. -/
theorem exhibits_of_mem_run (contained : host.Contained) (sound : state.Sound)
    {operations : List Operation} (controls : ∀ operation ∈ operations, operation.controls = true)
    {number : Nat} {inst : Instance} (found : state.instances[number]? = some inst)
    {taken : Taken Operation Failure State Answer}
    (member : taken ∈ Trace.run (perform host) state operations) :
    taken.before.Exhibits taken.after ∧ ∃ later, taken.before.instances[number]? = some later ∧
      later.name = inst.name ∧ later.arguments = inst.arguments := by
  induction operations generalizing state inst with
  | nil => cases member
  | cons operation rest ih =>
      have controlled := controls operation List.mem_cons_self
      have exhibits := exhibits_perform contained sound controlled
      rw [← after_take] at exhibits
      rcases List.mem_cons.mp member with rfl | further
      · exact ⟨exhibits, inst, found, rfl, rfl⟩
      · obtain ⟨between, there, named, bound⟩ := exhibits.kept number inst found
        have passage := take_passage contained sound controlled
        obtain ⟨shows, last, present, alsoNamed, alsoBound⟩ :=
          ih (passage.sound contained sound)
            (fun later among => controls later (List.mem_cons_of_mem _ among)) there further
        exact ⟨shows, last, present, alsoNamed.trans named, alsoBound.trans bound⟩

end Engine

end Workflow
