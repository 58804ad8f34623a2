import Workflow.Proofs.Ledger
import Workflow.Proofs.Prompt

/-!
# Partings

An operation leaves what is in progress alone, puts the current instance aside, puts a new instance
in its place, or ends instances from the top of the stack.  This is so whether it returns or not,
and so in no run at all an instance departs twice: once it has departed, it is neither waited for
nor suspended again.
-/

namespace Workflow

namespace State

/-- The instances that departed, the latest first. -/
def gone (state : State) : List Nat :=
  state.departures.map Departure.number

/-- The same instances are in progress, none was made, and none departed. -/
structure Stays (before after : State) : Prop where
  departures : after.departures = before.departures
  current : after.current = before.current
  suspended : after.suspended = before.suspended
  made : after.instances.length = before.instances.length

namespace Stays

variable {before middle after : State}

theorem refl (state : State) : state.Stays state :=
  ⟨rfl, rfl, rfl, rfl⟩

theorem trans (earlier : before.Stays middle) (later : middle.Stays after) :
    before.Stays after where
  departures := later.departures.trans earlier.departures
  current := later.current.trans earlier.current
  suspended := later.suspended.trans earlier.suspended
  made := later.made.trans earlier.made

theorem inProgress (stays : before.Stays after) : after.inProgress = before.inProgress := by
  rw [State.inProgress, stays.current, stays.suspended, State.inProgress]

theorem gone (stays : before.Stays after) : after.gone = before.gone := by
  rw [State.gone, stays.departures, State.gone]

end Stays

variable (state : State)

theorem stays_reporting {events : List Event} (quiet : Event.Quiet events) :
    state.Stays (state.reporting events) :=
  ⟨state.departures_reporting quiet, rfl, rfl, rfl⟩

theorem stays_finishing (number : Nat) : state.Stays (state.finishing number).detached :=
  ⟨rfl, rfl, rfl, rfl⟩

theorem stays_forwarded (number : Nat) (values : ValueMap) {events : List Event}
    (quiet : Event.Quiet events) : state.Stays (state.forwarded number values events) :=
  ⟨departures_reporting _ quiet, rfl, rfl, List.length_modify ..⟩

end State

namespace Engine

variable {host : Host} {state : State} {number : Nat} {inst : Instance} {definition : Definition}

theorem started_stays {result : Option Failure × State} (started : state.Started result) :
    state.Stays result.2 := by
  cases started with
  | dispatched stands => exact ⟨state.departures_dispatched _ _, rfl, rfl, rfl⟩
  | failed => exact ⟨rfl, rfl, rfl, rfl⟩

theorem Forwarded.stays {reached : State}
    (forwarded : state.Forwarded number inst definition reached) : state.Stays reached := by
  have departures := Forwarded.departures forwarded
  cases forwarded with
  | last quiet past => exact ⟨departures, rfl, rfl, List.length_modify ..⟩
  | dispatched quietBefore quietAfter there =>
      exact ⟨departures, rfl, rfl, List.length_modify ..⟩

/-- A new instance is current after an operation, and these entries are suspended. -/
structure Begins (state after : State) (aside : List (Option Nat)) : Prop where
  departures : after.departures = state.departures
  current : after.current = some state.instances.length
  suspended : after.suspended = aside
  made : after.instances.length = state.instances.length + 1

theorem Begins.of_stays {middle after : State} {aside : List (Option Nat)}
    (stays : state.Stays middle) (begins : Begins middle after aside) :
    Begins state after aside where
  departures := begins.departures.trans stays.departures
  current := by rw [begins.current, stays.made]
  suspended := begins.suspended
  made := by rw [begins.made, stays.made]

theorem begins_diverted {invocation : Invocation} {events : List Event}
    (quiet : Event.Quiet events) {result : Option Failure × State}
    (started : ((state.reporting events).diverted number inst invocation).Started result) :
    Begins state result.2 (some number :: state.suspended) := by
  have stays := started_stays started
  exact ⟨diverted_departures quiet started, stays.current, stays.suspended,
    stays.made.trans List.length_append⟩

/-- What an operation that controls an engine does to the instances in progress. -/
inductive Moves (host : Host) (state : State) (result : Option Failure × State) : Prop where
  | kept (stays : state.Stays result.2) (held : result.2.held ≠ none → state.held ≠ none)
  /-- The current instance is put aside, and nothing takes its place: its output is rejected with
  something that is no message. -/
  | halted {number : Nat} {inst : Instance} {definition : Definition} {stage : Stage}
      (held : state.held ≠ none) (stands : state.AtStage number inst definition stage)
      (strict : stage.validator ≠ .alwaysValid)
      (departures : result.2.departures = state.departures)
      (current : result.2.current = some number)
      (suspended : result.2.suspended = some number :: state.suspended)
      (made : result.2.instances.length = state.instances.length)
      (released : result.2.held = none)
  | replaced (begins : Begins state result.2 state.suspended)
  | interrupted {number : Nat} (held : state.held ≠ none) (current : state.current = some number)
      (begins : Begins state result.2 (some number :: state.suspended))
  | exited {place number : Nat} {values : ValueMap} {events : List Event}
      (held : state.held = some place) (quiet : Event.Quiet events)
      (exits : Exit host ((state.finishing place).detached.forwarded number values events) result)

/-- A validator that takes any output has no reason for a rejection but a message. -/
theorem strict_of_wordless {stage : Stage} {payload left : Payload} {error : Value}
    {failure : Failure} {reached : State}
    (judged : judge host number stage payload state = .ok (left, .error error) reached)
    (wordless : rejectionText error = .error failure) : stage.validator ≠ .alwaysValid := by
  intro plain
  obtain ⟨arguments, same⟩ := judge_alwaysValid host plain payload state
  rw [same] at judged
  cases built : ValueMap.ofValue (.dict payload) with
  | ok values =>
      rw [built] at judged
      cases judged
  | error fault =>
      rw [built] at judged
      cases judged
      cases wordless

theorem Completion.moves {place : Nat} (held : state.held = some place)
    {result : Option Failure × State}
    (completion : Completion host (state.finishing place).detached result) :
    Moves host state result := by
  have stays := state.stays_finishing place
  have waits : state.held ≠ none := by
    rw [held]
    exact nofun
  cases completion with
  | unjudged quiet => exact .kept (stays.trans (State.stays_reporting _ quiet)) fun _ => waits
  | @unworded number inst definition stage failure events stands quiet wordless =>
      obtain ⟨payload, left, error, reached, judged, wordless⟩ := wordless
      exact .halted waits ⟨⟨stands.current, stands.found, stands.defined⟩, stands.there⟩
        (strict_of_wordless judged wordless) (State.departures_reporting _ quiet) stands.current
        rfl rfl rfl
  | prompted stands quiet named started =>
      exact .interrupted waits stands.current ((begins_diverted quiet started).of_stays stays)
  | stuck stands quiet =>
      exact .kept (stays.trans (State.stays_forwarded _ _ _ quiet)) fun _ => waits
  | misdirected stands forwarded =>
      exact .kept (stays.trans (Forwarded.stays forwarded)) fun _ => waits
  | redirected stands forwarded found known quiet started =>
      have moved := Forwarded.stays forwarded
      have begins := begins_diverted quiet started
      rw [moved.suspended] at begins
      exact .interrupted waits stands.current (begins.of_stays (stays.trans moved))
  | carried stands forwarded unfinished =>
      exact .kept (stays.trans (Forwarded.stays forwarded)) fun _ => waits
  | ended stands quiet past exits => exact .exited held quiet exits

theorem Passage.moves {operation : Operation} {result : Option Failure × State}
    (passage : Passage host state operation result) : Moves host state result := by
  cases passage with
  | refused refusal => exact .kept (.refl state) id
  | registered quiet kept => exact .kept ⟨state.departures_reporting quiet, rfl, rfl, rfl⟩ id
  | invoked admitted started =>
      have quiet : Event.Quiet [.returned state.instances.length] := rfl
      have stays := (started_stays started).trans (State.stays_reporting _ quiet)
      exact .replaced ⟨stays.departures, stays.current, stays.suspended,
        stays.made.trans List.length_append⟩
  | stranded admitted => exact .replaced ⟨rfl, rfl, rfl, List.length_append⟩
  | unheard completed unheld => exact .kept ⟨rfl, rfl, rfl, rfl⟩ id
  | completed completed held completion => exact completion.moves held

end Engine

/-- Instances that were in progress departed, and what is in progress now was below them.  An
instance may still be current once its acceptor was called, but only where the engine waits for
nothing. -/
structure State.Parts (before after : State) (departed : List Departure) : Prop where
  departures : after.departures = departed.reverse ++ before.departures
  remaining : after.inProgress <:+ before.inProgress
  aside : (departed.map Departure.number ++ after.suspended.filterMap id).Sublist before.inProgress
  awaited : after.held ≠ none →
    (departed.map Departure.number ++ after.inProgress).Sublist before.inProgress

namespace State

variable {before middle after : State} {earlier later departed : List Departure}

theorem Left.parts (left : before.Left after departed) : before.Parts after departed where
  departures := left.departures
  remaining := ⟨_, left.inOrder⟩
  aside := by
    rw [← left.inOrder]
    exact (List.sublist_append_right _ _).append_left _
  awaited := by
    intro held
    exact left.inOrder ▸ List.Sublist.refl _

theorem Left.parts_trans (first : before.Left middle earlier) (second : middle.Parts after later) :
    before.Parts after (earlier ++ later) where
  departures := by
    rw [second.departures, first.departures, List.reverse_append, List.append_assoc]
  remaining := second.remaining.trans ⟨_, first.inOrder⟩
  aside := by
    rw [List.map_append, List.append_assoc, ← first.inOrder]
    exact second.aside.append_left _
  awaited := by
    intro held
    rw [List.map_append, List.append_assoc, ← first.inOrder]
    exact (second.awaited held).append_left _

end State

namespace Engine

variable {host : Host} {state : State} {number : Nat} {inst : Instance} {definition : Definition}

/-- An acceptor that does not answer is called at most once, and then its instance departed. -/
theorem unanswered_parts (contained : host.Contained) (poised : state.Poised)
    (runs : state.Runs number inst definition) {failure : Failure} {reached : State}
    (asked : consult host definition.acceptor number .accept (.values number)
      (state.exiting number inst) = .error failure reached) :
    ∃ departed, state.Parts reached departed ∧
      ∀ departure ∈ departed, departure = .accepted number := by
  have inProgress := State.inProgress_of_current runs.current
  have outcome := consultation_accept contained poised.toGrounded runs
  rw [asked] at outcome
  cases outcome with
  | refused =>
      refine ⟨[], ⟨rfl, List.suffix_refl _, ?_, fun _ => List.Sublist.refl _⟩, nofun⟩
      rw [inProgress]
      exact List.sublist_cons_self _ _
  | failed touched =>
      obtain ⟨edit, remarks, plain, rfl⟩ := touched
      refine ⟨[.accepted number], ⟨?_, List.suffix_refl _, ?_, ?_⟩, by simp⟩
      · exact State.departures_reporting _ (Event.quiet_remarks plain)
      · rw [inProgress]
        exact List.Sublist.refl _
      · intro held
        exact absurd poised.released held

theorem Exit.parts (contained : host.Contained) {result : Option Failure × State}
    (exits : Exit host state result) (poised : state.Poised) :
    ∃ departed, state.Parts result.2 departed := by
  induction exits with
  | unanswered runs asked =>
      obtain ⟨departed, parts, -⟩ := unanswered_parts contained poised runs asked
      exact ⟨departed, parts⟩
  | rested concluded empty =>
      obtain ⟨departed, left⟩ := left_rested contained poised concluded empty
      exact ⟨departed, left.parts⟩
  | unmerged concluded lastAside there merged =>
      obtain ⟨departed, left⟩ := left_recalled contained poised concluded lastAside _
      have parts := left.parts
      exact ⟨departed, parts.departures, parts.remaining, parts.aside, parts.awaited⟩
  | continued concluded restoring past further ih =>
      obtain ⟨earlier, round⟩ := left_round contained poised concluded restoring
      obtain ⟨later, parts⟩ := ih (poised_round contained poised concluded restoring)
      exact ⟨earlier ++ later, round.parts_trans parts⟩
  | dispatched concluded restoring unfinished =>
      obtain ⟨departed, round⟩ := left_round contained poised concluded restoring
      exact ⟨departed,
        (left_started round (started_round contained poised concluded restoring)).parts⟩

end Engine

namespace State

/-- What departed is neither suspended nor waited for, and no instance departed twice. -/
structure Parted (state : State) : Prop where
  made : ∀ number ∈ state.gone, number < state.instances.length
  aside : (state.gone ++ state.suspended.filterMap id).Nodup
  awaited : state.held ≠ none → (state.gone ++ state.inProgress).Nodup

/-- The acceptor of an instance that was given up has not been called. -/
theorem Parted.not_accepted {state : State} (parted : state.Parted) {number : Nat}
    (given : .abandoned number ∈ state.departures) : .accepted number ∉ state.departures := by
  intro accepted
  have once := List.nodup_iff_count.mp (List.nodup_append.mp parted.aside).1 number
  rw [gone, count_number] at once
  have first := List.count_pos_iff.mpr given
  have second := List.count_pos_iff.mpr accepted
  omega

theorem Numbered.inProgress_lt {state : State} (numbered : state.Numbered) {number : Nat}
    (member : number ∈ state.inProgress) : number < state.instances.length := by
  rcases mem_inProgress.mp member with current | suspended
  · exact numbered.current_lt number current
  · obtain ⟨other, same, inRange⟩ := numbered.suspended_lt _ suspended
    cases same
    exact inRange

/-- What departs from what was in progress is no less distinct than what was in progress. -/
theorem nodup_departed {before : List Nat} {inProgress departed remaining : List Nat}
    (distinct : (before ++ inProgress).Nodup) (left : (departed ++ remaining).Sublist inProgress) :
    (departed.reverse ++ before ++ remaining).Nodup := by
  have reordered : (departed.reverse ++ before ++ remaining).Perm
      (before ++ (departed ++ remaining)) := by
    apply List.perm_iff_count.mpr
    intro number
    simp only [List.count_append, List.count_reverse]
    omega
  exact reordered.nodup_iff.mpr ((left.append_left before).nodup distinct)

theorem Parts.parted {before after : State} {departed : List Departure}
    (parts : before.Parts after departed) (lasts : before.Lasts after) (numbered : before.Numbered)
    (made : ∀ number ∈ before.gone, number < before.instances.length)
    (distinct : (before.gone ++ before.inProgress).Nodup) : after.Parted := by
  have gone : after.gone = (departed.map Departure.number).reverse ++ before.gone := by
    rw [State.gone, parts.departures, List.map_append, List.map_reverse, State.gone]
  have kept (number : Nat) (old : number < before.instances.length) :
      number < after.instances.length := by
    obtain ⟨inst, found, -⟩ := lasts.named number _ (List.getElem?_eq_getElem old)
    exact (List.getElem?_eq_some_iff.mp found).1
  refine ⟨?_, ?_, ?_⟩
  · intro number member
    rw [gone, List.mem_append, List.mem_reverse] at member
    apply kept
    rcases member with departs | earlier
    · exact numbered.inProgress_lt (parts.aside.mem (List.mem_append_left _ departs))
    · exact made number earlier
  · rw [gone]
    exact nodup_departed distinct parts.aside
  · intro held
    rw [gone]
    exact nodup_departed distinct (parts.awaited held)

end State

namespace Engine

variable {host : Host} {state : State}

theorem Begins.parted {after : State} {aside : List (Option Nat)}
    (begins : Begins state after aside) (parted : state.Parted)
    (distinct : (state.gone ++ aside.filterMap id).Nodup)
    (below : ∀ number ∈ aside.filterMap id, number < state.instances.length) : after.Parted := by
  have gone : after.gone = state.gone := congrArg (List.map _) begins.departures
  have old : ∀ number ∈ state.gone ++ aside.filterMap id, number < state.instances.length := by
    intro number member
    exact (List.mem_append.mp member).elim (parted.made number) (below number)
  refine ⟨?_, ?_, ?_⟩
  · intro number member
    rw [gone] at member
    rw [begins.made]
    exact Nat.lt_succ_of_lt (parted.made number member)
  · rw [gone, begins.suspended]
    exact distinct
  · intro held
    rw [gone, State.inProgress_of_current begins.current, begins.suspended,
      List.perm_middle.nodup_iff]
    exact List.nodup_cons.mpr ⟨fun member => Nat.lt_irrefl _ (old _ member), distinct⟩

theorem Passage.parted (contained : host.Contained) {operation : Operation}
    {result : Option Failure × State} (passage : Passage host state operation result)
    (sound : state.Sound) (parted : state.Parted) : result.2.Parted := by
  cases passage.moves with
  | kept stays held =>
      refine ⟨?_, ?_, ?_⟩
      · rw [stays.gone, stays.made]
        exact parted.made
      · rw [stays.gone, stays.suspended]
        exact parted.aside
      · intro waits
        rw [stays.gone, stays.inProgress]
        exact parted.awaited (held waits)
  | halted held stands strict departures current suspended made released =>
      have gone : result.2.gone = state.gone := congrArg (List.map _) departures
      refine ⟨?_, ?_, fun waits => absurd released waits⟩
      · rw [gone, made]
        exact parted.made
      · have distinct := parted.awaited held
        rw [State.inProgress_of_current stands.current] at distinct
        rw [gone, suspended]
        exact distinct
  | replaced begins =>
      apply begins.parted parted parted.aside
      intro number member
      exact sound.toNumbered.inProgress_lt (List.mem_append_right _ member)
  | interrupted held current begins =>
      have inProgress := State.inProgress_of_current current
      apply begins.parted parted
      · have distinct := parted.awaited held
        rw [inProgress] at distinct
        exact distinct
      · intro number member
        apply sound.toNumbered.inProgress_lt
        rw [inProgress]
        exact member
  | @exited place number values events held quiet exits =>
      have stays :=
        (state.stays_finishing place).trans (State.stays_forwarded _ number values quiet)
      have poised := (poised_finishing sound held).forwarded number values events
      obtain ⟨departed, parts⟩ := exits.parts contained poised
      apply parts.parted (exits.lasts contained poised) poised.toNumbered
      · rw [stays.gone, stays.made]
        exact parted.made
      · rw [stays.gone, stays.inProgress]
        exact parted.awaited (by rw [held]; exact nofun)

/-- In no run an instance departs twice, whatever becomes of the operations. -/
theorem parted_final (contained : host.Contained) (sound : state.Sound) (parted : state.Parted)
    {operations : List Operation}
    (controls : ∀ operation ∈ operations, operation.controls = true) :
    (Trace.final (perform host) state operations).Parted := by
  refine invariant_final contained sound controls State.Parted ?_ parted
  intro operation member before result sound passage parted
  exact passage.parted contained sound parted

end Engine

theorem State.FreshlyBuilt.parted {state : State} (fresh : state.FreshlyBuilt) :
    state.Parted := by
  obtain ⟨idle, aside, released, -⟩ := fresh.idle
  have gone : state.gone = [] := congrArg (List.map _) fresh.departures
  refine ⟨?_, ?_, fun waits => absurd released waits⟩
  · rw [gone]
    exact nofun
  · rw [gone, aside]
    exact List.nodup_nil

end Workflow
