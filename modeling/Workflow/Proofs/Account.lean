import Workflow.Proofs.Cascade

/-!
# Accounts of instances

Every instance that was ever made is accounted for: it has departed, was replaced from outside, or
is in progress, and no instance is in two of these ways, or twice in one.  All changes that an
operation makes to a state keep this account.
-/

namespace Workflow

/-- Operations that were taken one after the other. -/
abbrev History := List (Taken Operation Failure State Answer)

/-- An instance finished at a stage in one of the operations: all stages of the definition that was
registered for it then were over. -/
def History.Closed (history : History) (number : Nat) (name : String) (stage : Int) : Prop :=
  ∃ taken ∈ history, .accepted number ∉ taken.before.departures ∧
    .accepted number ∈ taken.after.departures ∧
    ∃ definition, Registry.get taken.before.registry name = .ok definition ∧
      stage = definition.stageCount

/-- An instance finished in one of the operations, or all its stages are over since `start`. -/
def History.Closing (history : History) (start : State) (number : Nat) (name : String)
    (stage : Int) : Prop :=
  (.accepted number ∈ start.departures → history.Closed number name stage) ∧
    (.accepted number ∉ start.departures →
      ∃ definition, Registry.get start.registry name = .ok definition ∧
        stage = definition.stageCount)

/-- How an instance stands whose acceptor was called or not. -/
def Lifecycle.ofAccepted (accepted : Bool) : Lifecycle :=
  if accepted then .finished else .running

namespace State

/-- Every instance is in progress, or has departed, or was replaced, in one way only and once; those
that were accepted are finished and settled, and no others. -/
structure Accounted (settled : Nat → String → Int → Prop) (replaced : List Nat) (state : State) :
    Prop where
  balance : (state.departures.map Departure.number ++ (replaced ++ state.inProgress)).Perm
    (List.range state.instances.length)
  lifecycle : ∀ (number : Nat) (inst : Instance), state.instances[number]? = some inst →
    inst.state = .ofAccepted (state.departures.contains (.accepted number))
  settled : ∀ (number : Nat) (inst : Instance), state.instances[number]? = some inst →
    .accepted number ∈ state.departures → settled number inst.name inst.stage

/-- The account in the course of an operation that began in `start`. -/
structure Accounting (state : State) (history : History) (start : State) (replaced : List Nat) :
    Prop extends state.Accounted (history.Closing start) replaced where
  registry : state.registry = start.registry
  further : ∀ departure ∈ start.departures, departure ∈ state.departures

/-- Instances are the same but for what they were invoked with and what they accumulated. -/
def Alike (before after : State) : Prop :=
  before.instances.length = after.instances.length ∧
    ∀ (number : Nat) (inst : Instance), after.instances[number]? = some inst →
      ∃ old, before.instances[number]? = some old ∧ old.name = inst.name ∧
        old.stage = inst.stage ∧ old.state = inst.state

variable {settled : Nat → String → Int → Prop} {replaced : List Nat} {state after : State}

theorem Alike.of_same (same : after.instances = state.instances) : state.Alike after := by
  refine ⟨congrArg List.length same.symm, ?_⟩
  intro number inst found
  rw [same] at found
  exact ⟨inst, found, rfl, rfl, rfl⟩

namespace Accounted

theorem nodup (accounted : state.Accounted settled replaced) :
    (state.departures.map Departure.number ++ (replaced ++ state.inProgress)).Nodup :=
  accounted.balance.nodup_iff.mpr List.nodup_range

theorem lt_length (accounted : state.Accounted settled replaced) {departure : Departure}
    (member : departure ∈ state.departures) : departure.number < state.instances.length := by
  apply List.mem_range.mp
  apply accounted.balance.mem_iff.mp
  exact List.mem_append_left _ (List.mem_map_of_mem member)

/-- What is in progress has not departed. -/
theorem not_departed (accounted : state.Accounted settled replaced) {number : Nat}
    (inProgress : number ∈ state.inProgress) {departure : Departure}
    (member : departure ∈ state.departures) : departure.number ≠ number := by
  obtain ⟨-, -, disjoint⟩ := List.nodup_append.mp accounted.nodup
  exact disjoint departure.number (List.mem_map_of_mem member) number
    (List.mem_append_right _ inProgress)

theorem not_accepted (accounted : state.Accounted settled replaced) {number : Nat}
    (inProgress : number ∈ state.inProgress) : .accepted number ∉ state.departures := by
  intro member
  exact accounted.not_departed inProgress member rfl

/-- The account does not depend on anything but how instances stand and what departed. -/
theorem of_alike (accounted : state.Accounted settled replaced) (alike : state.Alike after)
    (inProgress : after.inProgress = state.inProgress)
    (departures : after.departures = state.departures) : after.Accounted settled replaced where
  balance := by
    rw [inProgress, departures, ← alike.1]
    exact accounted.balance
  lifecycle := by
    intro number inst found
    obtain ⟨old, before, -, -, same⟩ := alike.2 number inst found
    rw [← same, departures]
    exact accounted.lifecycle number old before
  settled := by
    intro number inst found accepted
    obtain ⟨old, before, name, stage, -⟩ := alike.2 number inst found
    rw [departures] at accepted
    rw [← name, ← stage]
    exact accounted.settled number old before accepted

theorem mono {weaker : Nat → String → Int → Prop} (accounted : state.Accounted settled replaced)
    (implies : ∀ number name stage, .accepted number ∈ state.departures →
      settled number name stage → weaker number name stage) :
    state.Accounted weaker replaced :=
  { accounted with
    settled := by
      intro number inst found accepted
      exact implies number inst.name inst.stage accepted
        (accounted.settled number inst found accepted) }

/-- A new instance is in progress, and whatever was in progress still is or was replaced. -/
theorem begun (accounted : state.Accounted settled replaced) {given : List Nat}
    {invocation : Invocation}
    (instances : after.instances = (state.begun invocation).instances)
    (departures : after.departures = state.departures)
    (inProgress : (given ++ after.inProgress).Perm
      (state.instances.length :: (replaced ++ state.inProgress))) :
    after.Accounted settled given where
  balance := by
    have length : after.instances.length = state.instances.length + 1 := by
      rw [instances]
      simp [State.begun]
    rw [departures, length, List.range_succ]
    have moved := (inProgress.append_left (state.departures.map Departure.number)).trans
      List.perm_middle
    exact (moved.trans (accounted.balance.cons _)).trans (List.perm_append_singleton _ _).symm
  lifecycle := by
    intro number inst found
    rw [instances] at found
    rw [departures]
    rcases found_begun found with old | ⟨rfl, rfl⟩
    · exact accounted.lifecycle number inst old
    · have absent : state.departures.contains (.accepted state.instances.length) = false := by
        rw [Bool.eq_false_iff, ne_eq, List.contains_iff_mem]
        intro member
        exact Nat.lt_irrefl _ (accounted.lt_length member)
      rw [absent]
      rfl
  settled := by
    intro number inst found accepted
    rw [instances] at found
    rw [departures] at accepted
    rcases found_begun found with old | ⟨rfl, -⟩
    · exact accounted.settled number inst old accepted
    · exact absurd (accounted.lt_length accepted) (Nat.lt_irrefl _)

/-- The instance that is current may go on to another stage. -/
theorem changing (accounted : state.Accounted settled replaced) {number : Nat}
    (current : state.current = some number) {change : Instance → Instance}
    (keepsState : ∀ inst, (change inst).state = inst.state) :
    (state.changing number change).Accounted settled replaced where
  balance := by
    have length : (state.changing number change).instances.length = state.instances.length :=
      List.length_modify ..
    rw [length]
    exact accounted.balance
  lifecycle := by
    intro other inst found
    obtain ⟨before, old, rfl⟩ := found_changing found
    refine Eq.trans ?_ (accounted.lifecycle other before old)
    split
    · exact keepsState before
    · rfl
  settled := by
    intro other inst found accepted
    obtain ⟨before, old, rfl⟩ := found_changing found
    have unfinished := accounted.not_accepted (mem_inProgress.mpr (.inl current))
    have different : number ≠ other := by
      rintro rfl
      exact unfinished accepted
    rw [if_neg different]
    exact accounted.settled other before old accepted

end Accounted

theorem departures_reporting (state : State) {events : List Event} (quiet : Event.Quiet events) :
    (state.reporting events).departures = state.departures := by
  rw [departures, reporting, List.filterMap_append, quiet]
  rfl

theorem Accounting.of_alike {history : History} {start : State}
    (accounting : state.Accounting history start replaced) (alike : state.Alike after)
    (inProgress : after.inProgress = state.inProgress)
    (departures : after.departures = state.departures)
    (registry : after.registry = state.registry) :
    after.Accounting history start replaced where
  toAccounted := accounting.toAccounted.of_alike alike inProgress departures
  registry := registry.trans accounting.registry
  further := by
    rw [departures]
    exact accounting.further

theorem Accounting.reporting {history : History} {start : State}
    (accounting : state.Accounting history start replaced) {events : List Event}
    (quiet : Event.Quiet events) : (state.reporting events).Accounting history start replaced :=
  accounting.of_alike (.of_same rfl) rfl (state.departures_reporting quiet) rfl

theorem alike_restored {top : Nat} {resumed : Instance} {rest : List (Option Nat)}
    (values : ValueMap) : state.Alike (state.restored top resumed rest values) := by
  refine ⟨(List.length_modify ..).symm, ?_⟩
  intro number inst found
  obtain ⟨before, old, rfl⟩ := found_changing found
  refine ⟨before, old, ?_⟩
  split <;> exact ⟨rfl, rfl, rfl⟩

end State

namespace Engine

variable {history : History} {host : Host} {start state : State} {replaced : List Nat}
  {number : Nat} {inst : Instance} {definition : Definition}

/-- What is found once an acceptor was called stands where it stood, but for the instance that is
finished now. -/
theorem found_concluded {answered after : State}
    (conclusion : Conclusion state number inst definition answered) (alike : answered.Alike after)
    {other : Nat} {present : Instance} (found : after.instances[other]? = some present) :
    (other = number ∧ present.state = .finished ∧ inst.name = present.name ∧
        inst.stage = present.stage) ∨
      other ≠ number ∧ ∃ old, state.instances[other]? = some old ∧ old.name = present.name ∧
        old.stage = present.stage ∧ old.state = present.state := by
  obtain ⟨old, there, name, stage, same⟩ := alike.2 other present found
  by_cases here : other = number
  · obtain ⟨values, own⟩ := conclusion.own
    rw [here, own] at there
    cases there
    exact .inl ⟨here, same.symm, name, stage⟩
  · rw [conclusion.others other here] at there
    exact .inr ⟨here, old, there, name, stage, same⟩

/-- Whatever departs was in progress, so it is counted as often as before. -/
theorem balance_departed {all : List Nat} {after : State} {departed : List Departure}
    (balance : (state.departures.map Departure.number ++ (replaced ++ state.inProgress)).Perm all)
    (departures : after.departures = departed.reverse ++ state.departures)
    (inProgress : state.inProgress = departed.map Departure.number ++ after.inProgress) :
    (after.departures.map Departure.number ++ (replaced ++ after.inProgress)).Perm all := by
  refine List.Perm.trans (List.perm_iff_count.mpr ?_) balance
  intro other
  rw [departures, inProgress]
  simp only [List.map_append, List.map_reverse, List.count_append, List.count_reverse]
  omega

/-- A current instance that is over is finished once its acceptor was called, and it is in progress
no more. -/
theorem accounting_concluded (accounting : state.Accounting history start replaced)
    (runs : state.Runs number inst definition) (full : inst.stage = definition.stageCount)
    {answered after : State} (conclusion : Conclusion state number inst definition answered)
    (alike : answered.Alike after) (departures : after.departures = answered.departures)
    (inProgress : after.inProgress = answered.suspended.filterMap id)
    (registry : after.registry = answered.registry) :
    after.Accounting history start replaced := by
  obtain ⟨departed, left, inOrder, -, -⟩ := conclusion.departed
  rw [← departures] at left
  have before : state.inProgress = departed.map Departure.number ++ after.inProgress := by
    rw [inProgress, inOrder, State.inProgress_of_current runs.current]
  have called (other : Nat) : .accepted other ∈ after.departures ↔
      other = number ∨ .accepted other ∈ state.departures := by
    rw [departures]
    exact conclusion.accepted_iff
  exact {
    balance := by
      rw [← alike.1, conclusion.length]
      exact balance_departed accounting.balance left before
    lifecycle := by
      intro other present found
      rcases found_concluded conclusion alike found with
        ⟨rfl, finished, -, -⟩ | ⟨different, old, there, -, -, same⟩
      · rw [finished, List.contains_iff_mem.mpr ((called other).mpr (.inl rfl))]
        rfl
      · have kept : after.departures.contains (.accepted other) =
            state.departures.contains (.accepted other) := by
          rw [Bool.eq_iff_iff, List.contains_iff_mem, List.contains_iff_mem, called]
          exact or_iff_right different
        rw [← same, accounting.lifecycle other old there, kept]
    settled := by
      intro other present found member
      rcases found_concluded conclusion alike found with
        ⟨rfl, -, name, stage⟩ | ⟨different, old, there, name, stage, -⟩
      · have unfinished := accounting.not_accepted (State.mem_inProgress.mpr (.inl runs.current))
        have since : .accepted other ∉ start.departures :=
          fun earlier => unfinished (accounting.further _ earlier)
        rw [← name, ← stage]
        exact ⟨fun earlier => absurd earlier since,
          fun _ => ⟨definition, accounting.registry ▸ runs.defined, full⟩⟩
      · rw [← name, ← stage]
        exact accounting.settled other old there (((called other).mp member).resolve_left different)
    registry := by
      rw [registry, conclusion.registry]
      exact accounting.registry
    further := by
      intro departure member
      rw [left]
      exact List.mem_append_right _ (accounting.further departure member) }

theorem accounting_started (accounting : state.Accounting history start replaced)
    {result : Option Failure × State} (started : state.Started result) :
    result.2.Accounting history start replaced := by
  cases started with
  | failed => exact accounting
  | dispatched stands =>
      exact accounting.of_alike (.of_same rfl) rfl (state.departures_dispatched _ _) rfl

theorem accounting_round (contained : host.Contained) (poised : state.Poised)
    (accounting : state.Accounting history start replaced)
    (full : inst.stage = definition.stageCount) {answered : State} {top : Nat} {resumed : Instance}
    {next : Definition} {contribution : Value} {rest : List (Option Nat)} {values : ValueMap}
    (concluded : Concluded host state number inst definition contribution answered)
    (restoring : Restoring answered contribution top resumed rest next values) :
    (answered.restored top resumed rest values).Accounting history start replaced := by
  have conclusion := concluded.conclusion contained poised.toGrounded
  apply accounting_concluded accounting concluded.toRuns full conclusion
  · exact State.alike_restored values
  · rfl
  · rw [restoring.lastAside]
    rfl
  · rfl

/-- What is suspended and over has all stages of its definition behind it. -/
theorem full_restored (contained : host.Contained) (poised : state.Poised)
    (resumable : state.Resumable) {answered : State} {top : Nat} {resumed : Instance}
    {next : Definition} {contribution : Value} {rest : List (Option Nat)} {values : ValueMap}
    (concluded : Concluded host state number inst definition contribution answered)
    (restoring : Restoring answered contribution top resumed rest next values)
    (past : next.isCompleteAt resumed.stage = true) : resumed.stage = next.stageCount := by
  have conclusion := concluded.conclusion contained poised.toGrounded
  have below := conclusion.unwound (poised.apart number concluded.current)
  have pending := (resumable.unwound below conclusion.registry) top restoring.onTop
  obtain ⟨inst, definition, found, -, defined, counted⟩ := pending
  cases restoring.found.symm.trans found
  cases restoring.defined.symm.trans defined
  simp only [Definition.isCompleteAt, decide_eq_true_eq] at past
  exact Int.le_antisymm counted past

/-- An exit that comes to its end keeps the account. -/
theorem Exit.accounting (contained : host.Contained) {result : Option Failure × State}
    (exits : Exit host state result) (poised : state.Poised) (resumable : state.Resumable)
    (accounting : state.Accounting history start replaced)
    (full : ∀ number inst definition, state.Runs number inst definition →
      inst.stage = definition.stageCount) (returned : result.1 = none) :
    result.2.Accounting history start replaced := by
  induction exits with
  | unanswered runs asked => cases returned
  | @rested state answered number inst definition contribution concluded empty =>
      have conclusion := concluded.conclusion contained poised.toGrounded
      have past := full number inst definition concluded.toRuns
      exact accounting_concluded accounting concluded.toRuns past conclusion (.of_same rfl)
        answered.departures_rested rfl rfl
  | unmerged concluded lastAside there merged => cases returned
  | continued concluded restoring past further ih =>
      have conclusion := concluded.conclusion contained poised.toGrounded
      have round := unwound_round contained poised concluded restoring
      refine ih (poised_round contained poised concluded restoring)
        (resumable.unwound round conclusion.registry)
        (accounting_round contained poised accounting (full _ _ _ concluded.toRuns) concluded
          restoring) ?_ returned
      intro other present runsBy runs
      have ended := full_restored contained poised resumable concluded restoring past
      obtain ⟨rfl, rfl, rfl⟩ := (runs_restored restoring).unique runs
      exact ended
  | dispatched concluded restoring unfinished =>
      have round := accounting_round contained poised accounting (full _ _ _ concluded.toRuns)
        concluded restoring
      exact accounting_started round (started_round contained poised concluded restoring)

theorem accounting_forwarded (accounting : state.Accounting history start replaced)
    (current : state.current = some number) {reached : State}
    (forwarded : state.Forwarded number inst definition reached) :
    reached.Accounting history start replaced := by
  have changed (values : ValueMap) :
      (state.changing number fun inst => { inst with values, stage := inst.stage + 1 }).Accounting
        history start replaced :=
    { accounting with
      toAccounted := accounting.toAccounted.changing current fun _ => rfl }
  cases forwarded with
  | last quiet past => exact (changed _).reporting quiet
  | @dispatched values earlier later stage arguments quietBefore quietAfter there =>
      have moved : (state.forwarded number values earlier).Accounting history start replaced :=
        (changed values).reporting quietBefore
      have dispatched : ((state.forwarded number values earlier).dispatched stage.name
          arguments).Accounting history start replaced :=
        moved.of_alike (.of_same rfl) rfl (State.departures_dispatched _ stage.name arguments) rfl
      exact dispatched.reporting quietAfter

/-- An instance that is put aside for a new one is still in progress. -/
theorem accounting_diverted (accounting : state.Accounting history start replaced)
    (current : state.current = some number) (inst : Instance) (invocation : Invocation) :
    (state.diverted number inst invocation).Accounting history start replaced := by
  have inProgress : (replaced ++ (state.diverted number inst invocation).inProgress).Perm
      (state.instances.length :: (replaced ++ state.inProgress)) := by
    rw [State.inProgress_of_current current]
    exact List.perm_middle
  exact { accounting with
    toAccounted := accounting.toAccounted.begun rfl rfl inProgress }

/-- The completion of a stage that comes to its end keeps the account. -/
theorem Completion.accounting (contained : host.Contained) {result : Option Failure × State}
    (completion : Completion host state result) (poised : state.Poised)
    (resumable : state.Resumable) (accounting : state.Accounting history start replaced)
    (returned : result.1 = none) : result.2.Accounting history start replaced := by
  cases completion with
  | unjudged quiet => cases returned
  | unworded stands quiet => cases returned
  | prompted stands quiet named started =>
      exact accounting_started
        (accounting_diverted (accounting.reporting quiet) stands.current _ _) started
  | stuck stands quiet => cases returned
  | misdirected stands forwarded => cases returned
  | redirected stands forwarded found known quiet started =>
      have moved := accounting_forwarded accounting stands.current forwarded
      obtain ⟨values, runs⟩ := forwarded.runs stands.toRuns
      have diverted := accounting_diverted (moved.reporting quiet) runs.current
      exact accounting_started (diverted _ _) started
  | carried stands forwarded unfinished =>
      exact accounting_forwarded accounting stands.current forwarded
  | @ended number inst definition stage values events result stands quiet past exits =>
      have moved := accounting_forwarded accounting stands.current
        (State.Forwarded.last quiet past : state.Forwarded number inst definition
          (state.forwarded number values events))
      have below := State.unwound_forwarded (poised.apart number stands.current) values events
      refine exits.accounting contained (poised.forwarded number values events)
        (resumable.unwound below rfl) moved ?_ returned
      intro other present runsBy runs
      have counted := poised.counted number inst stands.found
      have before := Definition.lt_stageCount counted stands.there
      obtain ⟨rfl, rfl, rfl⟩ := (stands.toRuns.forwarded values events).unique runs
      simp only [Definition.isCompleteAt, decide_eq_true_eq] at past
      exact Int.le_antisymm before past

end Engine

end Workflow
