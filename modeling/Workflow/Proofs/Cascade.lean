import Workflow.Proofs.WellFormed

/-!
# Cascades of exits

A workflow that is over hands its contribution to the one that was suspended last, and if that one
was suspended after its last stage, it is over as well.  `cascade` says what this comes to by
recursion on what is suspended.  An exit is this recursion, so everything that was suspended leaves
in its order, and what the acceptors contribute arrives one after the other.
-/

namespace Workflow

/-- The entries of a contribution that have text keys. -/
def Value.contribution : Value → ValueMap
  | .dict entries =>
    ⟨entries.filterMap fun entry =>
      match entry.1 with
      | .text key => some (key, entry.2)
      | _ => none⟩
  | _ => .empty

/-- Nothing, or a dictionary with text keys of values that can be stored. -/
def Value.IsContribution (answer : Value) : Prop :=
  answer = .null ∨ ∃ map : ValueMap, map.Storable ∧ answer = map.toValue

theorem Value.contribution_toValue (map : ValueMap) : map.toValue.contribution = map := by
  obtain ⟨entries⟩ := map
  rw [ValueMap.toValue, ofEntries, contribution, List.filterMap_map]
  exact congrArg ValueMap.mk List.filterMap_some

theorem ValueMap.merge_contribution {answer : Value} (contributes : answer.IsContribution)
    (map : ValueMap) : merge answer map = .ok () (map.merged answer.contribution) := by
  rcases contributes with rfl | ⟨other, storable, rfl⟩
  · rfl
  · rw [Value.contribution_toValue]
    exact merge_toValue storable map

/-- The acceptor always answers, and with something that can be taken over. -/
def Host.Contributes (host : Host) (acceptor : Hook) : Prop :=
  ∀ (state : State) (number : Nat), state.Numbered → number < state.instances.length →
    ∃ other answer answered, Engine.consult host acceptor number .accept (.values number) state =
      .ok (other, answer) answered ∧ answer.IsContribution

/-- No stage is left exactly if all stages are over. -/
theorem Definition.stage?_eq_none_iff (definition : Definition) {number : Int}
    (counted : 0 ≤ number) :
    definition.stage? number = none ↔ definition.isCompleteAt number = true := by
  have past : definition.isCompleteAt number = true ↔ (definition.stages.length : Int) ≤ number :=
    decide_eq_true_iff
  simp only [stage?, Position.item?, Position.offset?, counted, ↓reduceIte, Option.bind_some,
    List.getElem?_eq_none_iff, past]
  omega

namespace State

/-- The acceptors of all that is in progress contribute something that can be taken over. -/
def Contributing (state : State) (host : Host) : Prop :=
  ∀ number ∈ state.inProgress, ∀ inst definition, state.instances[number]? = some inst →
    Registry.get state.registry inst.name = .ok definition → host.Contributes definition.acceptor

/-- An instance and the definition that it runs by. -/
def runner? (state : State) (number : Nat) : Option (Instance × Definition) := do
  let inst ← state.instances[number]?
  let definition ← (Registry.get state.registry inst.name).toOption
  return (inst, definition)

/-- Whether an acceptor is the decision that gives up what was put aside last, and the values of an
instance say so. -/
def declines (state : State) (acceptor : Hook) (inst : Instance) : Bool :=
  acceptor = .cancelDecision &&
    (inst.values.checkEquals (.text state.settings.continueKey) (.bool false)).toOption = some true

/-- Dispatches a stage of an instance, unless an argument of it refers to a value that is not
there. -/
def dispatching (state : State) (inst : Instance) (stage : Stage) : Option Failure × State :=
  match Token.resolveAll inst id "" stage.tokens with
  | .ok arguments => (none, state.dispatched stage.name arguments)
  | .error fault => (some (.value fault), state)

end State

namespace Engine

/-- What the acceptor of a finishing instance contributes, and the state that it leaves. -/
def contributed (host : Host) (acceptor : Hook) (number : Nat) (state : State) :
    Option (ValueMap × State) :=
  match consult host acceptor number .accept (.values number) state with
  | .ok (_, answer) answered => some (answer.contribution, answered)
  | .error _ _ => none

/-- What becomes of an instance that is over, with what is suspended below it: its acceptor is
called, which may give up the first entry; the next one takes over the contribution, and if it is
not over itself, its stage is dispatched.  Without a next one the contribution is dropped. -/
def cascade (host : Host) (number : Nat) (state : State) (aside : List Nat) :
    Option (Option Failure × State) := do
  let (inst, definition) ← state.runner? number
  let (contribution, answered) ←
    contributed host definition.acceptor number (state.exiting number inst)
  match _left : if state.declines definition.acceptor inst then aside.tail else aside with
  | [] => return (none, answered.rested)
  | top :: rest =>
    let (resumed, next) ← answered.runner? top
    let values := resumed.values.merged contribution
    let restored := answered.restored top resumed (rest.map some) values
    match next.stage? resumed.stage with
    | some stage => return restored.dispatching { resumed with values } stage
    | none => cascade host top restored rest
termination_by aside.length
decreasing_by
  have shorter := congrArg List.length _left
  split at shorter <;> simp only [List.length_cons, List.length_tail] at shorter <;> omega

variable {host : Host} {state : State} {number : Nat} {inst : Instance} {definition : Definition}

/-- A hook that takes the values and answers with a contribution contributes. -/
theorem contributes_of_answers {acceptor : Hook} (arity : acceptor.arity = 1)
    (answers : ∀ (state : State) (number : Nat) (journal : List Event) (arguments : List Value),
      state.Numbered → number < state.instances.length → ∃ other answer answered,
        answerOf host journal arguments (.values number) acceptor state =
          .ok (other, answer) answered ∧ answer.IsContribution) :
    host.Contributes acceptor := by
  intro state number numbered inRange
  have asked : (state.consulting acceptor number .accept (.values number)).Numbered :=
    ⟨numbered.current_lt, numbered.suspended_lt⟩
  obtain ⟨other, answer, answered, answers, contributes⟩ := answers
    (state.consulting acceptor number .accept (.values number)) number state.journal
    (Question.accept.arguments (.dict ((Shown.values number).seen state))) asked inRange
  refine ⟨other, answer, answered, ?_, contributes⟩
  rw [consult_apply host acceptor number .accept (.values number) (by
    intro other same
    cases same
    exact inRange)]
  exact (if_pos arity).trans answers

theorem contributes_identityAcceptor (host : Host) : host.Contributes .identityAcceptor := by
  apply contributes_of_answers rfl
  intro state number journal arguments numbered inRange
  exact ⟨_, _, _, rfl, .inl rfl⟩

theorem contributes_cancelDecision (host : Host) : host.Contributes .cancelDecision := by
  apply contributes_of_answers rfl
  intro state number journal arguments numbered inRange
  have decided : ∃ answered, decideCancel (.values number) state = .ok .null answered := by
    rcases decideCancel_apply numbered (List.getElem?_eq_getElem inRange) with
      ⟨-, decided⟩ | ⟨top, lost, rest, -, -, -, decided⟩
    · exact ⟨_, decided⟩
    · exact ⟨_, decided⟩
  obtain ⟨answered, decided⟩ := decided
  refine ⟨.values number, .null, answered, ?_, .inl rfl⟩
  simp only [answerOf, bind_apply, decided, pure_apply]

/-- A hook that always replies with the same contribution contributes. -/
theorem contributes_custom {programs : Programs} {depth program stamp : Nat} {name : String}
    {answer : Value} (replies : ∀ occasion, programs.behaviour program occasion = .reply answer)
    (contributes : answer.IsContribution) :
    (programs.host (depth + 1)).Contributes (.custom program .acceptor name stamp) := by
  apply contributes_of_answers rfl
  intro state number journal arguments numbered inRange
  refine ⟨.values number, answer, state, ?_, contributes⟩
  simp only [answerOf, Programs.host, replies]
  rfl

theorem declines_exiting (found : state.instances[number]? = some inst) (acceptor : Hook) :
    (state.exiting number inst).Declines acceptor (.values number) ↔
      state.suspended ≠ [] ∧ state.declines acceptor inst = true := by
  have exiting : (state.exiting number inst).instances[number]? =
      some { inst with state := .finished } := by
    simp [State.exiting, State.changing, State.reporting, found]
  simp only [State.declines, Bool.and_eq_true, decide_eq_true_eq]
  constructor
  · rintro ⟨decision, aside, other, values, same, there, declined⟩
    cases same
    rw [exiting] at there
    cases there
    exact ⟨aside, decision, congrArg Except.toOption declined⟩
  · rintro ⟨aside, decision, declined⟩
    refine ⟨decision, aside, number, _, rfl, exiting, ?_⟩
    have same : (state.exiting number inst).settings = state.settings := rfl
    rw [same]
    simp only
    cases checked : inst.values.checkEquals (.text state.settings.continueKey) (.bool false) with
    | error fault => simp [checked, Except.toOption] at declined
    | ok answer => simpa [checked, Except.toOption] using declined

/-- An acceptor that answers leaves everything suspended, but for the first entry if it declines. -/
theorem suspended_answered (contained : host.Contained) (grounded : state.Grounded)
    (runs : state.Runs number inst definition) {aside : List Nat}
    (suspended : state.suspended = aside.map some) {answer : Shown × Value} {answered : State}
    (asked : consult host definition.acceptor number .accept (.values number)
      (state.exiting number inst) = .ok answer answered) :
    answered.suspended =
      (if state.declines definition.acceptor inst then aside.tail else aside).map some := by
  have outcome := consultation_accept contained grounded runs
  rw [asked] at outcome
  cases outcome with
  | answered touched keeps =>
      obtain ⟨edit, remarks, plain, rfl⟩ := touched
      rw [declines_exiting runs.found] at keeps
      have same : ((Shown.values number).editing edit ((state.exiting number inst).consulting
          definition.acceptor number .accept (.values number))).suspended = state.suspended := rfl
      rw [State.reporting, same, suspended]
      split
      · next declines =>
        cases aside with
        | nil => rfl
        | cons top rest => exact absurd ⟨by simp [suspended], declines⟩ keeps
      · rfl
  | declined single declines lastAside there =>
      obtain ⟨-, declines⟩ := (declines_exiting runs.found definition.acceptor).mp declines
      have entries : state.suspended = _ := lastAside
      rw [suspended] at entries
      rw [if_pos declines, List.map_tail, entries]
      rfl

theorem runner_apply (found : state.instances[number]? = some inst)
    (defined : Registry.get state.registry inst.name = .ok definition) :
    state.runner? number = some (inst, definition) := by
  simp [State.runner?, found, defined, Except.toOption]

theorem dispatching_eq (grounded : state.Grounded) {stage : Stage}
    (stands : state.AtStage number inst definition stage) :
    ending startStage state = state.dispatching inst stage := by
  rw [ending, startStage_apply stands.current stands.found stands.defined stands.there
    grounded.remembers, State.dispatching]
  cases Token.resolveAll inst id "" stage.tokens <;> rfl

theorem contributing_restored (contained : host.Contained) (poised : state.Poised)
    (contributing : state.Contributing host) {answered : State} {top : Nat} {resumed : Instance}
    {next : Definition} {contribution : Value} {rest : List (Option Nat)} {values : ValueMap}
    (concluded : Concluded host state number inst definition contribution answered)
    (restoring : Restoring answered contribution top resumed rest next values) :
    (answered.restored top resumed rest values).Contributing host := by
  have conclusion := concluded.conclusion contained poised.toGrounded
  have below := conclusion.unwound (poised.apart number concluded.current)
  have round := unwound_round contained poised concluded restoring
  have onTop := restoring.onTop
  intro other member present runsBy found defined
  have same : Registry.get state.registry present.name = .ok runsBy := by
    rw [← conclusion.registry]
    exact defined
  rcases State.mem_inProgress.mp member with current | later
  · cases current
    cases (runs_restored restoring).found.symm.trans found
    have before : state.instances[top]? = some resumed := by
      rw [← below.kept top onTop]
      exact restoring.found
    exact contributing top (State.mem_inProgress.mpr (.inr (below.sublist.mem onTop))) resumed
      runsBy before same
  · rw [round.kept other later] at found
    exact contributing other (State.mem_inProgress.mpr (.inr (round.sublist.mem later))) present
      runsBy found same

/-- An exit with rounds enough is the recursion over what is suspended. -/
theorem exit_cascade (contained : host.Contained) {bound : Nat} {aside : List Nat}
    (poised : state.Poised) (current : state.current = some number)
    (contributing : state.Contributing host) (suspended : state.suspended = aside.map some)
    (enough : aside.length < bound) :
    cascade host number state aside = some (ending (exit host bound) state) := by
  -- The bound and the list that the recursion runs along get shorter together.
  induction bound generalizing state number aside with
  | zero => simp at enough
  | succ bound ih =>
      obtain ⟨inst, definition, runs⟩ := poised.toGrounded.runs current
      have exiting := (poised.exiting number inst).toNumbered
      have finishes : number ∈ state.inProgress := State.mem_inProgress.mpr (.inl current)
      obtain ⟨other, answer, answered, asked, contributes⟩ := contributing number finishes inst
        definition runs.found runs.defined (state.exiting number inst) number exiting
        (exiting.current_lt number current)
      have concluded : Concluded host state number inst definition answer answered :=
        ⟨runs, other, asked⟩
      have conclusion := concluded.conclusion contained poised.toGrounded
      have answeredPoised := concluded.poised contained poised
      have remaining := suspended_answered contained poised.toGrounded runs suspended asked
      rw [cascade]
      simp only [runner_apply runs.found runs.defined, contributed, asked, Option.bind_eq_bind,
        Option.bind_some]
      split
      · next left =>
        rw [left] at remaining
        rw [exit_rested bound concluded remaining]
        rfl
      · next top rest left =>
        rw [left] at remaining
        obtain ⟨same, resumed, equal, there⟩ := answeredPoised.found_suspended
          (show some top ∈ answered.suspended by simp [remaining])
        cases equal
        obtain ⟨next, defined⟩ := answeredPoised.known top resumed there
        have restoring : Restoring answered answer top resumed (rest.map some) next
            (resumed.values.merged answer.contribution) :=
          ⟨remaining, there, defined, ValueMap.merge_contribution contributes resumed.values⟩
        have counted := answeredPoised.counted top resumed there
        have restored := poised_round contained poised concluded restoring
        rw [exit_resumed bound concluded restoring]
        simp only [runner_apply there defined, Option.bind_some]
        split
        · next stage found =>
          have unfinished : next.isCompleteAt resumed.stage ≠ true := by
            intro past
            cases found.symm.trans ((next.stage?_eq_none_iff counted).mpr past)
          rw [if_neg unfinished,
            ← dispatching_eq restored.toGrounded ⟨runs_restored restoring, found⟩]
          rfl
        · next missing =>
          have shorter := conclusion.length_suspended_le
          simp only [remaining, suspended, List.length_map, List.length_cons] at shorter
          rw [if_pos ((next.stage?_eq_none_iff counted).mp missing)]
          exact ih restored rfl
            (contributing_restored contained poised contributing concluded restoring) rfl
            (Nat.lt_of_lt_of_le shorter (Nat.le_of_lt_succ enough))

end Engine

/-- The instance that a departure is about. -/
def Departure.number : Departure → Nat
  | accepted number | abandoned number => number

/-- Whether an event clears what is shown. -/
def Event.isDeactivation : Event → Bool
  | .deactivated => true
  | _ => false

/-- How often what is shown was cleared. -/
def State.deactivations (state : State) : Nat :=
  state.journal.countP Event.isDeactivation

namespace State

theorem departures_dispatched (state : State) (stage : String) (arguments : Option (List String)) :
    (state.dispatched stage arguments).departures = state.departures := by
  simp only [departures, dispatched]
  cases state.dispatcher.backend <;> rfl

theorem departures_rested (state : State) : state.rested.departures = state.departures := by
  simp only [departures, rested]
  cases state.dispatcher.backend <;> rfl

end State

/-- Instances that were in progress have left, one after the other and the current one first, and
what is shown was cleared if none is left. -/
structure State.Left (before after : State) (departed : List Departure) : Prop where
  departures : after.departures = departed.reverse ++ before.departures
  inOrder : departed.map Departure.number ++ after.inProgress = before.inProgress
  cleared : after.deactivations =
    before.deactivations + if after.current.isNone then 1 else 0

theorem State.Left.trans {before middle after : State} {earlier later : List Departure}
    (first : before.Left middle earlier) (runs : middle.current.isSome = true)
    (second : middle.Left after later) : before.Left after (earlier ++ later) where
  departures := by
    rw [second.departures, first.departures, List.reverse_append, List.append_assoc]
  inOrder := by
    rw [List.map_append, List.append_assoc, second.inOrder, first.inOrder]
  cleared := by
    have cleared := first.cleared
    rw [Option.isNone_eq_false_iff.mpr runs] at cleared
    rw [second.cleared, cleared]
    rfl

namespace Engine

variable {host : Host} {state : State} {number : Nat} {inst : Instance} {definition : Definition}

theorem countP_remarks {remarks : List Event} (plain : ∀ event ∈ remarks, event.isRemark = true) :
    remarks.countP Event.isDeactivation = 0 := by
  apply List.countP_eq_zero.mpr
  intro event member
  have remark := plain event member
  cases event <;> first | exact Bool.false_ne_true | cases remark

/-- Concluding an instance is its departure, and perhaps that of the entry that it gives up. -/
theorem Conclusion.departed {answered : State}
    (conclusion : Conclusion state number inst definition answered) :
    ∃ departed : List Departure, answered.departures = departed.reverse ++ state.departures ∧
      departed.map Departure.number ++ answered.suspended.filterMap id =
        number :: state.suspended.filterMap id ∧
      answered.deactivations = state.deactivations ∧
      ∀ other, .accepted other ∈ departed ↔ other = number := by
  obtain ⟨arguments, ⟨same, remarks, plain, journal⟩ | ⟨top, name, label, rest, before, after,
    decision, journal⟩⟩ := conclusion.moved
  · refine ⟨[.accepted number], ?_, ?_, ?_, by simp⟩
    · have quiet := Event.quiet_remarks plain
      rw [State.departures, journal, List.append_assoc, List.filterMap_append, quiet]
      rfl
    · rw [same]
      rfl
    · rw [State.deactivations, journal, List.append_assoc, List.countP_append, countP_remarks plain,
        Nat.zero_add]
      rfl
  · refine ⟨[.accepted number, .abandoned top], ?_, ?_, ?_, by simp⟩
    · rw [State.departures, journal]
      rfl
    · rw [before, after]
      rfl
    · rw [State.deactivations, journal]
      rfl

/-- Concluding an instance is the only call of an acceptor. -/
theorem Conclusion.accepted_iff {answered : State}
    (conclusion : Conclusion state number inst definition answered) {other : Nat} :
    .accepted other ∈ answered.departures ↔
      other = number ∨ .accepted other ∈ state.departures := by
  obtain ⟨departed, departures, -, -, accepted⟩ := conclusion.departed
  rw [departures, List.mem_append, List.mem_reverse, accepted]

/-- Dispatching a stage lets nothing leave and clears nothing. -/
theorem left_started {middle : State} {departed : List Departure}
    (left : state.Left middle departed) {result : Option Failure × State}
    (started : middle.Started result) :
    state.Left result.2 departed := by
  cases started with
  | failed => exact left
  | @dispatched number inst definition stage arguments stands =>
      refine ⟨(middle.departures_dispatched _ _).trans left.departures, left.inOrder, ?_⟩
      refine Eq.trans ?_ left.cleared
      simp only [State.deactivations, State.dispatched]
      cases middle.dispatcher.backend <;> rfl

section Round

variable {answered : State} {contribution : Value}

/-- An engine that comes to rest has nothing left in progress. -/
theorem left_rested (contained : host.Contained) (poised : state.Poised)
    (concluded : Concluded host state number inst definition contribution answered)
    (empty : answered.suspended = []) : ∃ departed, state.Left answered.rested departed := by
  obtain ⟨departed, departures, inOrder, cleared, -⟩ :=
    (concluded.conclusion contained poised.toGrounded).departed
  refine ⟨departed, answered.departures_rested.trans departures, ?_, ?_⟩
  · rw [empty] at inOrder
    rw [State.inProgress_of_current concluded.current, State.inProgress, State.rested, empty]
    exact inOrder
  · rw [← cleared]
    simp only [State.deactivations, State.rested]
    cases answered.dispatcher.backend <;>
      simp [Backend.displayed, Event.isDeactivation, List.countP_cons]

/-- What was put aside last is in progress when it is current again. -/
theorem left_recalled (contained : host.Contained) (poised : state.Poised)
    (concluded : Concluded host state number inst definition contribution answered) {top : Nat}
    {rest : List (Option Nat)} (lastAside : answered.suspended = some top :: rest)
    (resumed : Instance) :
    ∃ departed, state.Left (answered.recalled top resumed rest) departed := by
  obtain ⟨departed, departures, inOrder, cleared, -⟩ :=
    (concluded.conclusion contained poised.toGrounded).departed
  refine ⟨departed, departures, ?_, cleared⟩
  rw [lastAside] at inOrder
  rw [State.inProgress_of_current concluded.current, State.inProgress]
  exact inOrder

/-- What concluding the current instance and resuming the one below leave in progress. -/
theorem left_round (contained : host.Contained) (poised : state.Poised) {top : Nat}
    {resumed : Instance} {next : Definition} {rest : List (Option Nat)} {values : ValueMap}
    (concluded : Concluded host state number inst definition contribution answered)
    (restoring : Restoring answered contribution top resumed rest next values) :
    ∃ departed, state.Left (answered.restored top resumed rest values) departed := by
  obtain ⟨departed, left⟩ :=
    left_recalled contained poised concluded restoring.lastAside resumed
  exact ⟨departed, left.departures, left.inOrder, left.cleared⟩

end Round

/-- An exit whose acceptors answer leaves nothing out: what was in progress departs in its order, up
to the instance that is resumed. -/
theorem Exit.left (contained : host.Contained) {result : Option Failure × State}
    (exits : Exit host state result) (poised : state.Poised)
    (answers : result.1 = none ∨ state.Contributing host) :
    ∃ departed, state.Left result.2 departed := by
  induction exits with
  | @unanswered state number inst definition failure reached runs asked =>
      rcases answers with returned | contributing
      · cases returned
      · have exiting := (poised.exiting number inst).toNumbered
        obtain ⟨other, answer, answered, also, -⟩ := contributing number
          (State.mem_inProgress.mpr (.inl runs.current)) inst definition runs.found runs.defined
          (state.exiting number inst) number exiting (exiting.current_lt number runs.current)
        cases asked.symm.trans also
  | rested concluded empty => exact left_rested contained poised concluded empty
  | unmerged concluded lastAside there merged =>
      obtain ⟨departed, left⟩ := left_recalled contained poised concluded lastAside _
      exact ⟨departed, left.departures, left.inOrder, left.cleared⟩
  | continued concluded restoring past further ih =>
      obtain ⟨earlier, round⟩ := left_round contained poised concluded restoring
      obtain ⟨later, left⟩ := ih (poised_round contained poised concluded restoring)
        (answers.imp_right fun contributing =>
          contributing_restored contained poised contributing concluded restoring)
      exact ⟨earlier ++ later, round.trans rfl left⟩
  | dispatched concluded restoring unfinished =>
      obtain ⟨departed, round⟩ := left_round contained poised concluded restoring
      exact ⟨departed, left_started round (started_round contained poised concluded restoring)⟩

end Engine

/-- An operation completes the stage that the engine waits for with an output that is accepted.  It
was the last stage, and no redirector leads elsewhere, so that the workflow is over in `ready`. -/
inductive Engine.Finishes (host : Host) (state : State) (operation : Operation) (number : Nat)
    (ready : State) : Prop where
  | intro {output : Value} {payload left : Payload} {place : Nat} {inst : Instance}
      {definition : Definition} {stage : Stage} {handle : Handle Watcher} {staged : ValueMap}
      {judged : State} (waits : state.Waits number inst definition stage place handle)
      (completes : state.completed operation = .ok place)
      (given : operation.output? = some output)
      (read : Payload.ofOutput output = .ok payload)
      (accepted : judge host number stage payload (state.finishing place).detached =
        .ok (left, .ok staged) judged)
      (past : definition.isCompleteAt (inst.stage + 1) = true)
      (straight : advise host number definition (inst.stage + 1)
        (judged.forwarded number (inst.values.merged staged)
          [.accepted number (definition.stageName? inst.stage) inst.stage staged]) =
        .ok none ready)

namespace Engine

variable {host : Host} {state : State} {number : Nat} {inst : Instance} {definition : Definition}

theorem contributing_forwarded (contributing : state.Contributing host) (number : Nat)
    (values : ValueMap) (events : List Event) :
    (state.forwarded number values events).Contributing host := by
  intro other member present runsBy found defined
  obtain ⟨before, old, rfl⟩ := State.found_changing found
  apply contributing other member before runsBy old
  split at defined
  · exact defined
  · exact defined

/-- Where the workflow is over, no stage is dispatched, and the redirector alone comes before the
exit. -/
theorem accept_finishing {staged : ValueMap} {ready : State}
    (found : state.instances[number]? = some inst) (storable : staged.Storable)
    (past : definition.isCompleteAt (inst.stage + 1) = true) (counted : 0 ≤ inst.stage)
    {name : Option String}
    (straight : advise host number definition (inst.stage + 1)
      (state.forwarded number (inst.values.merged staged)
        [.accepted number name inst.stage staged]) = .ok none ready)
    {values : ValueMap} (there : ready.instances[number]? =
      some { inst with values, stage := inst.stage + 1 }) :
    ending (accept host number definition name staged) state =
      ending (exit host (ready.suspended.length + 1 + host.patience)) ready := by
  have last : startNext definition (inst.stage + 1) = pure () := by
    have none : (definition.stageName? (inst.stage + 1)).isSome = false := by
      rw [definition.isSome_stageName? (Int.add_nonneg counted (by decide)), past]
      rfl
    rw [startNext, none]
    rfl
  rw [ending, accept_apply found storable, last]
  simp only [bind_apply, pure_apply, straight, proceed, exitIfComplete, instanceAt_apply there,
    past, ↓reduceIte, get_apply]
  rfl

theorem suspended_eq_map (numbered : state.Numbered) :
    state.suspended = (state.suspended.filterMap id).map some := by
  have entries (aside : List (Option Nat))
      (present : ∀ entry ∈ aside, ∃ number, entry = some number) :
      aside = (aside.filterMap id).map some := by
    induction aside with
    | nil => rfl
    | cons entry rest ih =>
        obtain ⟨number, rfl⟩ := present entry List.mem_cons_self
        have others := ih fun other member => present other (List.mem_cons_of_mem _ member)
        simpa using others
  apply entries
  intro entry member
  obtain ⟨number, same, inRange⟩ := numbered.suspended_lt entry member
  exact ⟨number, same⟩

/-- A completion after which the workflow is over is an exit of an instance that is one stage
further. -/
theorem Finishes.exits (contained : host.Contained) (sound : state.Sound) {operation : Operation}
    {ready : State} (finishes : Finishes host state operation number ready) :
    ∃ place values events, state.held = some place ∧ state.current = some number ∧
      ready = (state.finishing place).detached.forwarded number values events ∧
      ending (perform host operation) state =
        ending (exit host (ready.suspended.length + 1 + host.patience)) ready := by
  obtain @⟨output, payload, left, place, inst, definition, stage, handle, staged, judged, waits,
    completes, given, read, accepted, past, straight⟩ := finishes
  have poised := poised_finishing sound waits.held
  have stands : (state.finishing place).AtStage number inst definition stage :=
    ⟨⟨waits.current, waits.found, waits.defined⟩, waits.there⟩
  have runs : (state.finishing place).detached.Runs number inst definition :=
    ⟨waits.current, waits.found, waits.defined⟩
  obtain ⟨events, quiet, kept⟩ := judge_reporting contained poised.toGrounded number stage payload
  rw [accepted] at kept
  obtain ⟨rfl, storable⟩ := kept
  -- The redirector sees the instance one stage further and changes nothing but its values.
  let name := definition.stageName? inst.stage
  have quietAccepted : Event.Quiet (.accepted number name inst.stage staged :: events) := quiet
  have forwarded : (state.finishing place).detached.Forwarded number inst definition
      ((state.finishing place).detached.forwarded number (inst.values.merged staged)
        (.accepted number name inst.stage staged :: events)) :=
    .last quietAccepted past
  have advanced := forwarded.grounded poised.toGrounded
  have advised := advise_forwarded contained advanced (advanced.current_lt number waits.current)
    forwarded (inst.stage + 1)
  have unled : advise host number definition (inst.stage + 1)
      ((state.finishing place).detached.forwarded number (inst.values.merged staged)
        (.accepted number name inst.stage staged :: events)) = .ok none ready := straight
  rw [ending, unled] at advised
  simp only at advised
  obtain ⟨values, later, -, same⟩ := advised.last_of_over waits.counted past
  refine ⟨place, values, later, waits.held, waits.current, same, ?_⟩
  have there : ready.instances[number]? = some { inst with values, stage := inst.stage + 1 } := by
    rw [same]
    exact (runs.forwarded values later).found
  have found : ((state.finishing place).detached.reporting events).instances[number]? = some inst :=
    waits.found
  have accepts := accept_finishing found (storable staged rfl) past waits.counted straight there
  cases perform_completing given with
  | refused refused ends => cases refused.symm.trans completes
  | finished opened handled unfinished ends =>
      cases opened.symm.trans completes
      have told : ending (finishHandle host place output) state =
          ending (stageFinished host payload) (state.finishing place) :=
        finishHandle_held sound handled unfinished waits.held read
      have answers := ending_bind_pure (accept host number definition name staged) (fun _ => left)
        ((state.finishing place).detached.reporting events)
      rw [ends, told, ← accepts, ← answers, ending, stageFinished_apply stands, bind_apply,
        accepted]
      rfl

/-- A completion after which the workflow is over is the recursion over what is suspended, and what
was in progress leaves in its order. -/
theorem cascade_of_finishes (contained : host.Contained) (sound : state.Sound)
    (contributing : state.Contributing host) {operation : Operation} {ready : State}
    (finishes : Finishes host state operation number ready) :
    let result := ending (perform host operation) state
    cascade host number ready (state.suspended.filterMap id) = some result ∧
      ready.inProgress = state.inProgress ∧
      ∃ departed, ready.Left result.2 departed := by
  intro result
  obtain ⟨place, values, events, held, current, same, exits⟩ := finishes.exits contained sound
  have poised : ready.Poised := same ▸ (poised_finishing sound held).forwarded number values events
  have current : ready.current = some number := same ▸ current
  have suspended : ready.suspended = (state.suspended.filterMap id).map some := by
    rw [← suspended_eq_map sound.toNumbered, same]
    rfl
  have contributing : ready.Contributing host :=
    same ▸ contributing_forwarded contributing number values events
  have enough : ready.suspended.length < ready.suspended.length + 1 + host.patience := by omega
  have rounds : (state.suspended.filterMap id).length <
      ready.suspended.length + 1 + host.patience := by
    rw [suspended, List.length_map] at enough ⊢
    exact enough
  refine ⟨?_, ?_, ?_⟩
  · rw [exit_cascade contained poised current contributing suspended rounds]
    exact congrArg some exits.symm
  · rw [same]
    rfl
  · have left := (exit_ending contained poised.toGrounded current enough).left contained poised
      (.inr contributing)
    rw [← exits] at left
    exact left

/-- An engine that waits takes the completion of the stage that it waits for. -/
theorem completed_waits {stage : Stage} {place : Nat} {handle : Handle Watcher}
    (waits : state.Waits number inst definition stage place handle) (output : Value) :
    state.completed (.complete output) = .ok place := by
  have found : state.dispatcher.handle? place = some handle := waits.dispatched
  simp only [State.completed, waits.shown, State.open?, found, waits.incomplete,
    Bool.false_eq_true, ↓reduceIte]

end Engine

namespace Detour

theorem wellFormed_visiting : visiting.WellFormed :=
  Engine.wellFormed_final contained (Engine.wellFormed_freshlyBuilt built) (by decide +kernel)

theorem contributing_visiting : visiting.Contributing host := by
  have acceptors : ∀ number ∈ visiting.inProgress, ∀ inst ∈ visiting.instances[number]?,
      ∀ definition ∈ (Registry.get visiting.registry inst.name).toOption,
        definition.acceptor = .identityAcceptor ∨
          definition.acceptor = .custom 1 .acceptor "report" 1 := by decide +kernel
  intro number member inst definition found defined
  have known : (Registry.get visiting.registry inst.name).toOption = some definition := by
    rw [defined]
    rfl
  rcases acceptors number member inst found definition known with identity | report
  · rw [identity]
    exact Engine.contributes_identityAcceptor host
  · rw [report]
    exact Engine.contributes_custom (fun _ => rfl)
      (.inr ⟨⟨[("seen", .bool true)]⟩,
        by simp [ValueMap.Storable, Value.kind, Kind.isSupported], rfl⟩)

def visit : Definition :=
  ⟨"Visit", [⟨"Look", none, .alwaysValid⟩], .custom 1 .acceptor "report" 1, none⟩

theorem finishes_visiting : ∃ ready, Engine.Finishes host visiting (.complete .null) 1 ready := by
  have shows : visiting.Shows 1 "Visit" 0 visit ⟨"Look", none, .alwaysValid⟩ 2 := by
    decide +kernel
  obtain ⟨inst, handle, waits, first⟩ := shows.waits
  have accepted (state : State) : ∃ judged,
      Engine.judge host 1 ⟨"Look", none, .alwaysValid⟩ [] state = .ok ([], .ok .empty) judged :=
    ⟨_, rfl⟩
  obtain ⟨judged, accepted⟩ := accepted (visiting.finishing 2).detached
  refine ⟨_, .intro waits (Engine.completed_waits waits .null) rfl rfl accepted ?_ rfl⟩
  rw [first]
  rfl

end Detour

namespace Engine

/-- The visit ends, and the trip for which it was made goes on. -/
theorem cascade_of_finishes_detour :
    ∃ ready, Finishes Detour.host Detour.visiting (.complete .null) 1 ready ∧
      cascade Detour.host 1 ready [0] =
        some (ending (perform Detour.host (.complete .null)) Detour.visiting) ∧
      ∃ departed, ready.Left
        (ending (perform Detour.host (.complete .null)) Detour.visiting).2 departed := by
  obtain ⟨ready, finishes⟩ := Detour.finishes_visiting
  have suspended : Detour.visiting.suspended.filterMap id = [0] := by decide +kernel
  obtain ⟨cascades, inProgress, left⟩ := cascade_of_finishes Detour.contained
    Detour.wellFormed_visiting.toSound Detour.contributing_visiting finishes
  rw [suspended] at cascades
  exact ⟨ready, finishes, cascades, left⟩

end Engine

end Workflow
