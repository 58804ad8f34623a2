import Workflow.Proofs.Continuation
import Workflow.Proofs.Parting

/-!
# What a prompt decides about

The acceptor of a prompt gives up whatever was suspended last.  That this is the instance for which
the prompt was opened is an invariant of all runs, whatever becomes of the operations: wherever the
prompt is in progress, that instance lies directly below it.
-/

namespace Workflow

/-- Wherever a number is in a list, another one comes next. -/
def Followed (number next : Nat) (numbers : List Nat) : Prop :=
  ∀ rest, number :: rest <:+ numbers → rest.head? = some next

namespace Followed

variable {number next other : Nat} {numbers fewer : List Nat}

theorem of_suffix (followed : Followed number next numbers) (suffix : fewer <:+ numbers) :
    Followed number next fewer := by
  intro rest inside
  exact followed rest (inside.trans suffix)

theorem cons (followed : Followed number next numbers) (different : other ≠ number) :
    Followed number next (other :: numbers) := by
  intro rest inside
  rcases List.suffix_cons_iff.mp inside with same | below
  · cases same
    exact absurd rfl different
  · exact followed rest below

theorem top (absent : number ∉ next :: numbers) :
    Followed number next (number :: next :: numbers) := by
  intro rest inside
  rcases List.suffix_cons_iff.mp inside with same | below
  · cases same
    rfl
  · exact absurd (below.mem List.mem_cons_self) absent

end Followed

namespace State

/-- Whenever a prompt is current, what it was opened for is suspended last, and whenever it is
suspended itself, what it was opened for is the entry below. -/
structure Interrupts (state : State) (prompt asked : Nat) : Prop where
  named : ∃ inst, state.instances[prompt]? = some inst ∧ inst.name = state.settings.cancelWorkflow
  current : state.current = some prompt → ∃ rest, state.suspended = some asked :: rest
  suspended : ∀ above below, state.suspended = above ++ some prompt :: below →
    ∃ rest, below = some asked :: rest

/-- A prompt and what it was opened for, in terms of what is in progress. -/
structure Attends (state : State) (prompt asked : Nat) : Prop where
  named : ∃ inst, state.instances[prompt]? = some inst ∧ inst.name = state.settings.cancelWorkflow
  followed : Followed prompt asked state.inProgress

namespace Attends

variable {state : State} {prompt asked : Nat}

/-- What is suspended below a prompt that is in progress. -/
theorem below (attends : state.Attends prompt asked) {numbers : List Nat}
    (inside : prompt :: numbers <:+ state.inProgress) :
    ∃ rest, numbers.map some = some asked :: rest := by
  obtain ⟨rest, same⟩ := List.head?_eq_some_iff.mp (attends.followed numbers inside)
  exact ⟨rest.map some, by rw [same, List.map_cons]⟩

theorem interrupts (attends : state.Attends prompt asked) (numbered : state.Numbered) :
    state.Interrupts prompt asked where
  named := attends.named
  current := by
    intro current
    rw [Engine.suspended_eq_map numbered]
    apply attends.below
    exact ⟨[], (inProgress_of_current current).symm⟩
  suspended := by
    intro above below entries
    rw [Engine.suspended_eq_map numbered] at entries
    obtain ⟨first, others, split, -, last⟩ := List.map_eq_append_iff.mp entries
    obtain ⟨number, rest, rfl, same, rfl⟩ := List.map_eq_cons_iff.mp last
    cases same
    apply attends.below
    rw [inProgress, split]
    exact (List.suffix_append first _).trans (List.suffix_append _ _)

theorem isPrompt (attends : state.Attends prompt asked) (prompts : state.Prompts) {inst : Instance}
    {definition : Definition} (found : state.instances[prompt]? = some inst)
    (defined : Registry.get state.registry inst.name = .ok definition) : definition.IsPrompt := by
  obtain ⟨other, there, named⟩ := attends.named
  obtain ⟨cancel, known, asks⟩ := prompts
  cases there.symm.trans found
  rw [named, known] at defined
  cases defined
  exact asks

end Attends

end State

namespace Engine

variable {host : Host} {state : State} {prompt asked : Nat} {inst : Instance}
  {definition : Definition} {stage : Stage}

/-- No operation comes between a prompt and what it was opened for. -/
theorem Passage.attends (contained : host.Contained) {operation : Operation}
    {result : Option Failure × State} (passage : Passage host state operation result)
    (sound : state.Sound) (prompts : state.Prompts) (attends : state.Attends prompt asked) :
    result.2.Attends prompt asked where
  named := by
    have lasts := passage.lasts contained sound
    obtain ⟨inst, found, named⟩ := attends.named
    obtain ⟨later, there, same⟩ := lasts.named prompt inst found
    exact ⟨later, there, by rw [same, named, lasts.settings]⟩
  followed := by
    obtain ⟨inst, found, -⟩ := attends.named
    have fresh : state.instances.length ≠ prompt :=
      Nat.ne_of_gt (List.getElem?_eq_some_iff.mp found).1
    cases passage.moves with
    | kept stays held =>
        rw [stays.inProgress]
        exact attends.followed
    | @halted number inst definition stage held stands strict departures current suspended made
        released =>
        -- A prompt takes any output that can be stored, so it never halts.
        have other : number ≠ prompt := by
          rintro rfl
          have asks := attends.isPrompt prompts stands.found stands.defined
          exact strict (asks.validators stage (Definition.mem_of_stage? stands.there))
        have inProgress : result.2.inProgress = number :: state.inProgress := by
          rw [State.inProgress_of_current current, suspended,
            State.inProgress_of_current stands.current]
          rfl
        rw [inProgress]
        exact attends.followed.cons other
    | replaced begins =>
        rw [State.inProgress_of_current begins.current, begins.suspended]
        exact (attends.followed.of_suffix (List.suffix_append _ _)).cons fresh
    | interrupted held current begins =>
        have below : Followed prompt asked state.inProgress := attends.followed
        rw [State.inProgress_of_current current] at below
        rw [State.inProgress_of_current begins.current, begins.suspended]
        exact below.cons fresh
    | @exited place number values events held quiet exits =>
        have stays :=
          (state.stays_finishing place).trans (State.stays_forwarded _ number values quiet)
        obtain ⟨departed, parts⟩ :=
          exits.parts contained ((poised_finishing sound held).forwarded number values events)
        exact attends.followed.of_suffix (stays.inProgress ▸ parts.remaining)

theorem attends_final (contained : host.Contained) (sound : state.Sound) (prompts : state.Prompts)
    (attends : state.Attends prompt asked) {operations : List Operation}
    (controls : ∀ operation ∈ operations, operation.controls = true)
    (unreplaced : ∀ operation ∈ operations,
      state.settings.cancelWorkflow ∉ operation.registers?) :
    (Trace.final (perform host) state operations).Attends prompt asked := by
  have started := And.intro prompts (And.intro (rfl : state.settings = state.settings) attends)
  refine (invariant_final contained sound controls (fun reached => reached.Prompts ∧
    reached.settings = state.settings ∧ reached.Attends prompt asked) ?_ started).2.2
  rintro operation member before result sound passage ⟨prompts, settings, attends⟩
  refine ⟨passage.prompts contained sound prompts ?_, ?_, ?_⟩
  · rw [settings]
    exact unreplaced operation member
  · exact (passage.lasts contained sound).settings.trans settings
  · exact passage.attends contained sound prompts attends

/-- A rejection puts a prompt on top of the instance whose output was rejected. -/
theorem Rejects.attends (contained : host.Contained) (sound : state.Sound) {operation : Operation}
    (rejects : Rejects host state operation asked inst definition stage) :
    (ending (perform host operation) state).2.current = some state.instances.length ∧
      (ending (perform host operation) state).2.Attends state.instances.length asked := by
  obtain ⟨place, text, events, held, quiet, ends⟩ := rejects.prompted contained sound
  have released := state.released place events
  have grounded := (poised_finishing sound held).toGrounded.reporting events
  rw [ends]
  generalize (state.finishing place).detached.reporting events = waiting at released grounded
  let invocation : Invocation :=
    ⟨state.settings.cancelWorkflow, some [(cancelErrorArgument, text)]⟩
  obtain ⟨cancel, known⟩ := sound.cancel_known
  have found : waiting.instances[asked]? = some inst := by
    rw [released.instances]
    exact rejects.found
  have began : (waiting.diverted asked inst invocation).instances[waiting.instances.length]? =
      some (Instance.ofInvocation invocation) := List.getElem?_concat_length
  have defined : Registry.get waiting.registry invocation.name = .ok cancel := by
    rw [released.registry]
    exact known
  have diverted := grounded.diverted found defined
  have started := startStage_ending diverted ⟨rfl, began, defined⟩
  have stays := started_stays started
  have lasts := Started.lasts started
  rw [← released.instances]
  refine ⟨stays.current, ?_, ?_⟩
  · obtain ⟨later, there, named⟩ := lasts.named _ _ began
    refine ⟨later, there, ?_⟩
    rw [named, lasts.settings]
    exact congrArg ControllerSettings.cancelWorkflow released.settings.symm
  · rw [stays.inProgress]
    apply Followed.top
    intro member
    have current : waiting.current = some asked := released.current.trans rejects.current
    have old : waiting.instances.length ∈ waiting.inProgress := by
      rw [State.inProgress_of_current current]
      exact member
    exact Nat.lt_irrefl _ (grounded.toNumbered.inProgress_lt old)

end Engine

namespace State

/-- Rounds of an exit lead from one state to another: no more is in progress than before. -/
structure Narrows (before after : State) : Prop extends before.Lasts after where
  registry : after.registry = before.registry
  remaining : after.inProgress <:+ before.inProgress

theorem Narrows.refl (state : State) : state.Narrows state :=
  ⟨.refl state, rfl, List.suffix_refl _⟩

theorem Narrows.trans {before middle after : State} (earlier : before.Narrows middle)
    (later : middle.Narrows after) : before.Narrows after :=
  ⟨earlier.toLasts.trans later.toLasts, later.registry.trans earlier.registry,
    later.remaining.trans earlier.remaining⟩

end State

namespace Engine

variable {host : Host} {state answered : State} {number prompt asked : Nat} {inst : Instance}
  {definition : Definition} {contribution : Value} {result : Option Failure × State}

theorem narrows_round (contained : host.Contained) (poised : state.Poised) {top : Nat}
    {resumed : Instance} {next : Definition} {rest : List (Option Nat)} {values : ValueMap}
    (concluded : Concluded host state number inst definition contribution answered)
    (restoring : Restoring answered contribution top resumed rest next values) :
    state.Narrows (answered.restored top resumed rest values) := by
  obtain ⟨departed, round⟩ := left_round contained poised concluded restoring
  exact ⟨lasts_round contained poised.toGrounded values concluded,
    (concluded.conclusion contained poised.toGrounded).registry, _, round.inOrder⟩

/-- An acceptor that is called in the course of an exit is called in one of its rounds. -/
theorem Exit.of_accepted (contained : host.Contained) (exits : Exit host state result)
    (poised : state.Poised) (before : .accepted number ∉ state.departures)
    (after : .accepted number ∈ result.2.departures) :
    ∃ ready, state.Narrows ready ∧ ready.Poised ∧ ready.current = some number ∧
      Exit host ready result := by
  induction exits with
  | @unanswered state other inst definition failure reached runs asked =>
      obtain ⟨departed, parts, only⟩ := unanswered_parts contained poised runs asked
      rw [parts.departures, List.mem_append, List.mem_reverse] at after
      cases only _ (after.resolve_right before)
      exact ⟨state, .refl state, poised, runs.current, .unanswered runs asked⟩
  | @rested state answered other inst definition contribution concluded empty =>
      have conclusion := concluded.conclusion contained poised.toGrounded
      rw [State.departures_rested] at after
      obtain rfl := (conclusion.accepted_iff.mp after).resolve_right before
      exact ⟨state, .refl state, poised, concluded.current, .rested concluded empty⟩
  | @unmerged state answered other top inst resumed definition contribution rest fault values
      concluded lastAside there merged =>
      have conclusion := concluded.conclusion contained poised.toGrounded
      obtain rfl := (conclusion.accepted_iff.mp after).resolve_right before
      exact ⟨state, .refl state, poised, concluded.current,
        .unmerged concluded lastAside there merged⟩
  | @continued state answered other top inst resumed definition next contribution rest values
      result concluded restoring past further ih =>
      have conclusion := concluded.conclusion contained poised.toGrounded
      by_cases same : number = other
      · subst same
        exact ⟨state, .refl state, poised, concluded.current,
          .continued concluded restoring past further⟩
      · have still : .accepted number ∉ (answered.restored top resumed rest values).departures :=
          fun called => before ((conclusion.accepted_iff.mp called).resolve_left same)
        obtain ⟨ready, narrows, facts⟩ :=
          ih (poised_round contained poised concluded restoring) still after
        exact ⟨ready, (narrows_round contained poised concluded restoring).trans narrows, facts⟩
  | @dispatched state answered other top inst resumed definition next contribution rest values
      concluded restoring unfinished =>
      have conclusion := concluded.conclusion contained poised.toGrounded
      have started := started_round contained poised concluded restoring
      rw [(started_stays started).departures] at after
      obtain rfl := (conclusion.accepted_iff.mp after).resolve_right before
      exact ⟨state, .refl state, poised, concluded.current,
        .dispatched concluded restoring unfinished⟩

/-- The answer of an acceptor is determined by the state in which it is asked. -/
theorem Concluded.unique {other : Nat} {again : Instance} {same : Definition} {reply : Value}
    {reached : State}
    (concluded : Concluded host state number inst definition contribution answered)
    (also : Concluded host state other again same reply reached) :
    contribution = reply ∧ answered = reached := by
  obtain ⟨rfl, rfl, rfl⟩ := concluded.toRuns.unique also.toRuns
  obtain ⟨shown, asked⟩ := concluded.asked
  obtain ⟨shownAgain, askedAgain⟩ := also.asked
  cases asked.symm.trans askedAgain
  exact ⟨rfl, rfl⟩

/-- An instance that is current again exits as well if it is over, and its stage is dispatched
otherwise. -/
def GoesOn (host : Host) (inst : Instance) (definition : Definition) (restored : State)
    (result : Option Failure × State) : Prop :=
  if definition.isCompleteAt inst.stage then Exit host restored result
  else result = ending startStage restored

/-- An exit whose acceptor contributes nothing resumes what is suspended last once it answered. -/
theorem Exit.of_concluded (contained : host.Contained) (exits : Exit host state result)
    (poised : state.Poised)
    (concluded : Concluded host state number inst definition .null answered) :
    answered.Lasts result.2 ∧ ∀ top rest, answered.suspended = some top :: rest →
      ∃ resumed next, Restoring answered .null top resumed rest next resumed.values ∧
        GoesOn host resumed next (answered.restored top resumed rest resumed.values) result := by
  cases exits with
  | unanswered runs asked =>
      obtain ⟨rfl, rfl, rfl⟩ := concluded.toRuns.unique runs
      obtain ⟨shown, answers⟩ := concluded.asked
      cases asked.symm.trans answers
  | rested again empty =>
      obtain ⟨rfl, rfl⟩ := concluded.unique again
      refine ⟨answered.lasts_rested, ?_⟩
      intro top rest lastAside
      cases empty.symm.trans lastAside
  | unmerged again lastAside there merged =>
      obtain ⟨rfl, rfl⟩ := concluded.unique again
      cases merged
  | @continued _ _ _ top _ resumed _ next _ rest values _ again restoring past further =>
      obtain ⟨rfl, rfl⟩ := concluded.unique again
      have round := poised_round contained poised concluded restoring
      refine ⟨(answered.lasts_restored top resumed rest values).trans
        (further.lasts contained round), ?_⟩
      intro other others lastAside
      cases restoring.lastAside.symm.trans lastAside
      cases restoring.merged
      exact ⟨resumed, next, restoring, by rw [GoesOn, if_pos past]; exact further⟩
  | @dispatched _ _ _ top _ resumed _ next _ rest values again restoring unfinished =>
      obtain ⟨rfl, rfl⟩ := concluded.unique again
      have started := started_round contained poised concluded restoring
      refine ⟨(answered.lasts_restored top resumed rest values).trans (Started.lasts started), ?_⟩
      intro other others lastAside
      cases restoring.lastAside.symm.trans lastAside
      cases restoring.merged
      exact ⟨resumed, next, restoring, by rw [GoesOn, if_neg (by rw [unfinished]; exact nofun)]⟩

/-- A prompt is over on the way from one state to another: its acceptor is asked in `ready`, where
what it was opened for is suspended last, and answers with nothing in `answered`. -/
structure Asked (host : Host) (state : State) (prompt asked : Nat) (inst : Instance)
    (rest : List (Option Nat)) (ready answered : State) : Prop where
  since : state.journal <:+ ready.journal
  lastAside : ready.suspended = some asked :: rest
  concluded : ∃ definition, Concluded host ready prompt inst definition .null answered

/-- What a prompt that is over decides about the instance for which it was opened. -/
inductive Settles (host : Host) (state : State) (prompt asked : Nat)
    (result : Option Failure × State) : Prop where
  /-- Its values say not to continue.  That instance is given up and nothing else, and its acceptor
  is not called in any run. -/
  | abandoned {inst : Instance} {rest : List (Option Nat)} {ready answered : State}
      (concludes : Asked host state prompt asked inst rest ready answered)
      (declines : inst.values.get? state.settings.continueKey = some (.bool false))
      (aside : answered.suspended = rest)
      (departures :
        answered.departures = .abandoned asked :: .accepted prompt :: ready.departures)
      (never : ∀ operations : List Operation,
        (∀ operation ∈ operations, operation.controls = true) →
          .accepted asked ∉ (Trace.final (perform host) result.2 operations).departures)
  /-- Its values do not say so.  Nothing is given up, and that instance is resumed. -/
  | resumed {inst resumed : Instance} {next : Definition} {rest : List (Option Nat)}
      {ready answered : State} (concludes : Asked host state prompt asked inst rest ready answered)
      (continues : inst.values.get? state.settings.continueKey ≠ some (.bool false))
      (departures : answered.departures = .accepted prompt :: ready.departures)
      (restoring : Restoring answered .null asked resumed rest next resumed.values)
      (further :
        GoesOn host resumed next (answered.restored asked resumed rest resumed.values) result)

/-- An operation after which the acceptor of a prompt was called settles what becomes of the
instance for which it was opened. -/
theorem Passage.settles (contained : host.Contained) {operation : Operation}
    (passage : Passage host state operation result) (sound : state.Sound)
    (prompts : state.Prompts) (attends : state.Attends prompt asked) (parted : state.Parted)
    (before : .accepted prompt ∉ state.departures)
    (after : .accepted prompt ∈ result.2.departures) :
    Settles host state prompt asked result := by
  have departed : result.2.departures ≠ state.departures := by
    intro same
    exact before (same ▸ after)
  obtain ⟨place, number, inst, definition, stage, values, events, held, -, quiet, -, exits⟩ :=
    passage.exits_of_departed departed
  have stays := (state.stays_finishing place).trans (State.stays_forwarded _ number values quiet)
  have poised := (poised_finishing sound held).forwarded number values events
  rw [← stays.departures] at before
  obtain ⟨ready, narrows, poised, current, exits⟩ := exits.of_accepted contained poised before after
  have lasts : state.Lasts ready :=
    ((state.lasts_finishing place).trans (State.lasts_detached _)).trans
      ((State.lasts_forwarded _ number values events).trans narrows.toLasts)
  have attends : ready.Attends prompt asked := {
    named := by
      obtain ⟨inst, found, named⟩ := attends.named
      obtain ⟨later, there, same⟩ := lasts.named prompt inst found
      exact ⟨later, there, by rw [same, named, lasts.settings]⟩
    followed := attends.followed.of_suffix (stays.inProgress ▸ narrows.remaining) }
  have prompts : ready.Prompts := by
    obtain ⟨cancel, known, asks⟩ := prompts
    refine ⟨cancel, ?_, asks⟩
    rw [narrows.registry, lasts.settings]
    exact known
  obtain ⟨asking, cancel, runs⟩ := poised.toGrounded.runs current
  have isPrompt := attends.isPrompt prompts runs.found runs.defined
  obtain ⟨rest, lastAside⟩ := (attends.interrupts poised.toNumbered).current current
  obtain ⟨answered, concluded, -, decided⟩ :=
    concluded_decision host poised.toGrounded runs isPrompt.acceptor lastAside
  obtain ⟨further, resumes⟩ := exits.of_concluded contained poised concluded
  have concludes : Asked host state prompt asked asking rest ready answered :=
    ⟨lasts.journal, lastAside, cancel, concluded⟩
  cases decided with
  | declined declines aside departures =>
      rw [lasts.settings] at declines
      refine .abandoned concludes declines aside departures ?_
      intro operations controls
      have reached := passage.sound contained sound
      have given := (lasts_final contained reached controls).departed
        (further.departed (departures ▸ List.mem_cons_self))
      exact (parted_final contained reached (passage.parted contained sound parted)
        controls).not_accepted given
  | continued continues aside departures =>
      rw [lasts.settings] at continues
      obtain ⟨resumed, next, restoring, further⟩ := resumes asked rest aside
      exact .resumed concludes continues departures restoring further

/-- A prompt decides about the instance for which it was opened.  In any run that does not register
its name, whatever becomes of the operations, that instance lies directly below the prompt as long
as the prompt is in progress.  When the prompt is over, exactly that instance is given up if its
values say not to continue, and exactly that instance is resumed otherwise. -/
theorem settles_of_rejects (contained : host.Contained) {start : State}
    (fresh : start.FreshlyBuilt) {earlier later : List Operation} {operation : Operation}
    (controls : ∀ performed ∈ earlier ++ operation :: later, performed.controls = true)
    (unreplaced : ∀ performed ∈ earlier ++ operation :: later,
      start.settings.cancelWorkflow ∉ performed.registers?) {stage : Stage}
    (rejects : Rejects host (Trace.final (perform host) start earlier) operation asked inst
      definition stage) :
    let before := Trace.final (perform host) start earlier
    let prompt := before.instances.length
    let state := Trace.final (perform host) start (earlier ++ operation :: later)
    (Trace.take (perform host) before operation).after.current = some prompt ∧
      state.Interrupts prompt asked ∧
      ∀ next : Operation, next.controls = true → .accepted prompt ∉ state.departures →
        .accepted prompt ∈ (Trace.take (perform host) state next).after.departures →
          Settles host state prompt asked (ending (perform host next) state) := by
  intro before prompt state
  have sound : state.Sound := sound_final contained fresh.sound controls
  obtain ⟨prompts, -⟩ : state.Prompts ∧ _ :=
    prompts_final contained fresh.sound fresh.prompts controls unreplaced
  have parted : state.Parted := parted_final contained fresh.sound fresh.parted controls
  obtain ⟨controlsBefore, controlsAfter⟩ := List.forall_mem_append.mp controls
  obtain ⟨controlled, controlsAfter⟩ := List.forall_mem_cons.mp controlsAfter
  obtain ⟨unreplacedBefore, unreplacedAfter⟩ := List.forall_mem_append.mp unreplaced
  obtain ⟨spared, unreplacedAfter⟩ := List.forall_mem_cons.mp unreplacedAfter
  have soundBefore : before.Sound := sound_final contained fresh.sound controlsBefore
  obtain ⟨promptsBefore, settings⟩ : before.Prompts ∧ before.settings = start.settings :=
    prompts_final contained fresh.sound fresh.prompts controlsBefore unreplacedBefore
  obtain ⟨opened, attends⟩ := rejects.attends contained soundBefore
  rw [← after_take] at opened attends
  have passage := take_passage contained soundBefore controlled
  have lasts := passage.lasts contained soundBefore
  rw [← settings] at spared
  rw [← settings, ← lasts.settings] at unreplacedAfter
  have attends := attends_final contained (passage.sound contained soundBefore)
    (passage.prompts contained soundBefore promptsBefore spared) attends controlsAfter
    unreplacedAfter
  have whole : Trace.final (perform host) (Trace.take (perform host) before operation).after later =
      state := by
    simp only [state, before, Trace.final, List.foldl_append, List.foldl_cons]
  rw [whole] at attends
  refine ⟨opened, attends.interrupts sound.toNumbered, ?_⟩
  intro next controls unsettled settled
  rw [after_take] at settled
  exact (perform_passage contained sound controls).settles contained sound prompts attends parted
    unsettled settled

end Engine

namespace Detour

/-- The output for the prompt about the trip cannot be stored either, and the prompt about that is
answered with nothing. -/
def doubting : List Operation := [.complete (.dict [(.int 1, .null)]), .complete .null]

end Detour

namespace Engine

/-- Once the doubts are settled, the prompt about the trip is answered with no. -/
theorem settles_of_rejects_detour :
    let state := Trace.final (perform Detour.host) Detour.start
      (Detour.going ++ .complete (.dict [(.int 1, .null)]) :: Detour.doubting)
    state.Interrupts 1 0 ∧ Settles Detour.host state 1 0 (ending
      (perform Detour.host (.complete (.dict [(.text "continue", .bool false)]))) state) := by
  intro state
  obtain ⟨inst, place, handle, waits⟩ := Detour.waits_going
  have prompt : (Trace.final (perform Detour.host) Detour.start
      Detour.going).instances.length = 1 := by decide +kernel
  have controls : ∀ performed ∈ Detour.going ++ .complete (.dict [(.int 1, .null)]) ::
      Detour.doubting, performed.controls = true := by decide +kernel
  obtain ⟨-, interrupts, settles⟩ := settles_of_rejects Detour.contained Detour.built controls
    (by decide +kernel) (Detour.rejects_going waits)
  rw [prompt] at interrupts settles
  exact ⟨interrupts, settles _ rfl (by decide +kernel) (by decide +kernel)⟩

end Engine

end Workflow
