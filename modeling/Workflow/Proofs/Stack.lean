import Workflow.Proofs.Reachable

/-!
# The stack of suspended instances

What is suspended is a stack.  An operation puts the current instance on top of it or takes entries
away from the top, and it does not touch what stays.  An instance that is current again has taken
over the answer of the acceptor that was called last.
-/

namespace Workflow

namespace State

/-- Entries were taken from the top of the stack, and the instances of the others are untouched. -/
structure Unwound (before after : State) : Prop where
  fewer : ∃ count, after.suspended = before.suspended.drop count
  kept : ∀ number, some number ∈ after.suspended →
    after.instances[number]? = before.instances[number]?

/-- The current instance was put on top of the stack, and the instances below are untouched. -/
structure Stacked (before after : State) : Prop where
  pushed : ∃ number, before.current = some number ∧
    after.suspended = some number :: before.suspended
  kept : ∀ number, some number ∈ before.suspended →
    after.instances[number]? = before.instances[number]?

namespace Unwound

variable {before middle after : State}

theorem of_same (suspended : after.suspended = before.suspended)
    (kept : ∀ number, some number ∈ after.suspended →
      after.instances[number]? = before.instances[number]?) : Unwound before after where
  fewer := ⟨0, by rw [suspended, List.drop_zero]⟩
  kept := kept

theorem refl (state : State) : Unwound state state :=
  of_same rfl fun _ _ => rfl

theorem sublist (unwound : Unwound before after) :
    after.suspended.Sublist before.suspended := by
  obtain ⟨count, fewer⟩ := unwound.fewer
  rw [fewer]
  exact List.drop_sublist count _

theorem trans (earlier : Unwound before middle) (later : Unwound middle after) :
    Unwound before after where
  fewer := by
    obtain ⟨first, fewerFirst⟩ := earlier.fewer
    obtain ⟨second, fewerSecond⟩ := later.fewer
    refine ⟨first + second, ?_⟩
    rw [fewerSecond, fewerFirst, List.drop_drop]
  kept := by
    intro number member
    rw [later.kept number member]
    exact earlier.kept number (later.sublist.mem member)

end Unwound

variable {state : State} {number : Nat}

/-- Changing an instance that is not suspended leaves the stack as it was. -/
theorem unwound_changing (absent : some number ∉ state.suspended)
    (change : Instance → Instance) : Unwound state (state.changing number change) := by
  refine ⟨⟨0, rfl⟩, ?_⟩
  intro other member
  have different : number ≠ other := by
    rintro rfl
    exact absent member
  simp [changing, different]

theorem unwound_forwarded (absent : some number ∉ state.suspended) (values : ValueMap)
    (events : List Event) : state.Unwound (state.forwarded number values events) := by
  have moved := unwound_changing absent fun inst => { inst with values, stage := inst.stage + 1 }
  exact ⟨moved.fewer, moved.kept⟩

theorem unwound_recalled {rest : List (Option Nat)} (inst : Instance)
    (lastAside : state.suspended = some number :: rest) :
    Unwound state (state.recalled number inst rest) where
  fewer := ⟨1, by rw [lastAside]; rfl⟩
  kept := by
    intro other member
    rfl

end State

namespace Engine

variable {host : Host} {state : State} {number : Nat} {inst : Instance} {definition : Definition}

theorem Conclusion.unwound {answered : State}
    (conclusion : Conclusion state number inst definition answered)
    (absent : some number ∉ state.suspended) : state.Unwound answered where
  fewer := by
    rcases conclusion.fewer with same | ⟨top, before⟩
    · exact ⟨0, by rw [same, List.drop_zero]⟩
    · exact ⟨1, by rw [before]; rfl⟩
  kept := by
    intro other member
    apply conclusion.others
    rintro rfl
    apply absent
    rcases conclusion.fewer with same | ⟨top, before⟩
    · rwa [← same]
    · rw [before]
      exact List.mem_cons_of_mem _ member

theorem unwound_restored {answered : State} (poised : answered.Poised) {top : Nat}
    (resumed : Instance) {rest : List (Option Nat)}
    (lastAside : answered.suspended = some top :: rest) (values : ValueMap) :
    answered.Unwound (answered.restored top resumed rest values) := by
  have recalled := poised.recalled resumed lastAside
  have edited := State.unwound_changing (recalled.apart top rfl)
    fun inst => { inst with values := values }
  exact (State.unwound_recalled resumed lastAside).trans ⟨edited.fewer, edited.kept⟩

/-- An instance that was suspended is current again: nothing of it changed but that the answer of
the acceptor that was called last was merged into its values, and its stage is dispatched. -/
def Resumed (host : Host) (state : State) (number : Nat) (inst : Instance) (after : State) : Prop :=
  ∃ asking answered last finishing definition contribution rest next values stage arguments,
    state.journal <:+ asking.journal ∧
      Concluded host asking last finishing definition contribution answered ∧
      Restoring answered contribution number inst rest next values ∧
      next.stage? inst.stage = some stage ∧
      after = (answered.restored number inst rest values).dispatched stage.name arguments ∧
      after.instances[number]? = some { inst with values }

/-- What concluding the current instance and resuming the one below do to the stack. -/
theorem unwound_round (contained : host.Contained) (poised : state.Poised) {answered : State}
    {top : Nat} {resumed : Instance} {next : Definition} {contribution : Value}
    {rest : List (Option Nat)} {values : ValueMap}
    (concluded : Concluded host state number inst definition contribution answered)
    (restoring : Restoring answered contribution top resumed rest next values) :
    state.Unwound (answered.restored top resumed rest values) := by
  have conclusion := concluded.conclusion contained poised.toGrounded
  have absent := poised.apart number concluded.current
  exact (conclusion.unwound absent).trans
    (unwound_restored (concluded.poised contained poised) resumed restoring.lastAside values)

theorem Exit.unwound (contained : host.Contained) {result : Option Failure × State}
    (exits : Exit host state result) (poised : state.Poised) : state.Unwound result.2 := by
  induction exits with
  | @unanswered state number inst definition failure reached runs asked =>
      obtain ⟨edit, events, rfl⟩ := unanswered_reached contained poised.toGrounded runs asked
      have absent := poised.apart number runs.current
      have marked := State.unwound_changing absent fun inst => { inst with state := .finished }
      have exiting : state.Unwound (state.exiting number inst) := ⟨marked.fewer, marked.kept⟩
      have stillAbsent := (poised.exiting number inst).apart number runs.current
      have edited := State.unwound_changing stillAbsent
        fun inst => { inst with values := edit inst.values }
      exact exiting.trans ⟨edited.fewer, edited.kept⟩
  | rested concluded empty =>
      have conclusion := concluded.conclusion contained poised.toGrounded
      have answered := conclusion.unwound (poised.apart _ concluded.current)
      exact answered.trans ⟨⟨0, rfl⟩, fun _ _ => rfl⟩
  | @unmerged state answered number top inst resumed definition contribution rest fault values
      concluded lastAside there merged =>
      have conclusion := concluded.conclusion contained poised.toGrounded
      have recalled := (concluded.poised contained poised).recalled resumed lastAside
      have edited := State.unwound_changing (recalled.apart top rfl)
        fun inst => { inst with values := values }
      exact (conclusion.unwound (poised.apart _ concluded.current)).trans
        ((State.unwound_recalled resumed lastAside).trans edited)
  | continued concluded restoring past further ih =>
      have round := unwound_round contained poised concluded restoring
      exact round.trans (ih (poised_round contained poised concluded restoring))
  | @dispatched state answered number top inst resumed definition next contribution rest values
      concluded restoring unfinished =>
      have round := unwound_round contained poised concluded restoring
      have started := started_round contained poised concluded restoring
      generalize ending startStage _ = result at started ⊢
      cases started with
      | dispatched stands => exact round.trans ⟨⟨0, rfl⟩, fun _ _ => rfl⟩
      | failed => exact round

/-- The journal only grows while the current instance is concluded. -/
theorem Conclusion.journal_suffix {answered : State}
    (conclusion : Conclusion state number inst definition answered) :
    state.journal <:+ answered.journal := by
  obtain ⟨arguments, ⟨-, remarks, -, journal⟩ | ⟨top, name, label, rest, -, -, -, journal⟩⟩ :=
    conclusion.moved
  · rw [journal]
    exact List.suffix_append _ _
  · rw [journal]
    exact List.suffix_append _ _

theorem Conclusion.restored_suffix {answered : State}
    (conclusion : Conclusion state number inst definition answered) (top : Nat)
    (resumed : Instance) (rest : List (Option Nat)) (values : ValueMap) :
    state.journal <:+ (answered.restored top resumed rest values).journal := by
  apply conclusion.journal_suffix.trans
  exact List.suffix_append [.restoring top resumed.name resumed.stage,
    .popped (some top) resumed.label rest.length] answered.journal

theorem Resumed.of_suffix {earlier after : State} (resumed : Resumed host state number inst after)
    (before : earlier.journal <:+ state.journal) : Resumed host earlier number inst after := by
  obtain ⟨asking, answered, last, finishing, definition, contribution, rest, next, values, stage,
    arguments, further, facts⟩ := resumed
  exact ⟨asking, answered, last, finishing, definition, contribution, rest, next, values, stage,
    arguments, before.trans further, facts⟩

/-- Where an exit ends with an instance that is current, that one was suspended. -/
theorem Exit.resumed (contained : host.Contained) {result : Option Failure × State}
    (exits : Exit host state result) (poised : state.Poised) (returned : result.1 = none)
    {number : Nat} (current : result.2.current = some number) :
    ∃ inst, some number ∈ state.suspended ∧ state.instances[number]? = some inst ∧
      Resumed host state number inst result.2 := by
  induction exits with
  | unanswered runs asked => cases returned
  | rested concluded empty => cases current
  | unmerged concluded lastAside there merged => cases returned
  | @continued state answered number top inst resumed definition next contribution rest values
      result concluded restoring past further ih =>
      have conclusion := concluded.conclusion contained poised.toGrounded
      have round := unwound_round contained poised concluded restoring
      obtain ⟨inst, member, found, later⟩ :=
        ih (poised_round contained poised concluded restoring) returned current
      refine ⟨inst, round.sublist.mem member, ?_, ?_⟩
      · rw [← round.kept _ member]
        exact found
      · exact Resumed.of_suffix later (conclusion.restored_suffix top resumed rest values)
  | @dispatched state answered number top inst resumed definition next contribution rest values
      concluded restoring unfinished =>
      have conclusion := concluded.conclusion contained poised.toGrounded
      have below := conclusion.unwound (poised.apart _ concluded.current)
      have member := restoring.onTop
      have runs := runs_restored restoring
      have started := started_round contained poised concluded restoring
      generalize ending startStage (answered.restored top resumed rest values) = result
        at started returned current ⊢
      cases started with
      | failed => cases returned
      | dispatched stands =>
          cases current
          obtain ⟨-, rfl, rfl⟩ := runs.unique stands.toRuns
          refine ⟨resumed, below.sublist.mem member, ?_, ?_⟩
          · rw [← below.kept _ member]
            exact restoring.found
          · exact ⟨state, answered, _, _, _, contribution, rest, _, values, _, _,
              List.suffix_refl _, concluded, restoring, stands.there, rfl, runs.found⟩

theorem started_keeps {result : Option Failure × State} (started : state.Started result) :
    result.2.suspended = state.suspended ∧ result.2.instances = state.instances := by
  cases started with
  | dispatched stands => exact ⟨rfl, rfl⟩
  | failed => exact ⟨rfl, rfl⟩

/-- Moving an instance on leaves the stack as it was. -/
theorem unwound_of_forwarded (absent : some number ∉ state.suspended) {reached : State}
    (forwarded : state.Forwarded number inst definition reached) :
    reached.suspended = state.suspended ∧ state.Unwound reached := by
  cases forwarded with
  | last quiet past => exact ⟨rfl, State.unwound_forwarded absent _ _⟩
  | @dispatched values earlier later stage arguments quietBefore quietAfter there =>
      have moved := State.unwound_forwarded absent values earlier
      exact ⟨rfl, moved.fewer, moved.kept⟩

theorem found_diverted (state : State) (number : Nat) (inst : Instance) (invocation : Invocation)
    {other : Nat} (old : other < state.instances.length) :
    (state.diverted number inst invocation).instances[other]? = state.instances[other]? :=
  List.getElem?_append_left old

/-- An instance that was put aside for another one lies on top of what was suspended before. -/
theorem stacked_diverted (grounded : state.Grounded) (current : state.current = some number)
    {invocation : Invocation} {result : Option Failure × State}
    (started : (state.diverted number inst invocation).Started result) :
    state.Stacked result.2 := by
  obtain ⟨suspended, instances⟩ := started_keeps started
  refine ⟨⟨number, current, suspended⟩, ?_⟩
  intro other member
  obtain ⟨same, equal, inRange⟩ := grounded.suspended_lt _ member
  cases equal
  rw [instances]
  exact found_diverted state number inst invocation inRange

/-- The completion of a stage puts the current instance on the stack or takes entries off it. -/
theorem Completion.framed (contained : host.Contained) {result : Option Failure × State}
    (completion : Completion host state result) (poised : state.Poised) :
    state.Unwound result.2 ∨ state.Stacked result.2 := by
  cases completion with
  | unjudged quiet => exact .inl ⟨⟨0, rfl⟩, fun _ _ => rfl⟩
  | @unworded number inst definition stage failure events stands quiet =>
      exact .inr ⟨⟨number, stands.current, rfl⟩, fun _ _ => rfl⟩
  | prompted stands quiet named started =>
      have stacked := stacked_diverted (poised.toGrounded.reporting _) stands.current started
      exact .inr ⟨stacked.pushed, stacked.kept⟩
  | @stuck number inst definition stage failure values events stands quiet =>
      exact .inl (State.unwound_forwarded (poised.apart number stands.current) values events)
  | misdirected stands forwarded =>
      exact .inl (unwound_of_forwarded (poised.apart _ stands.current) forwarded).2
  | @redirected number inst later definition target stage invocation events reached result stands
      forwarded found known quiet started =>
      obtain ⟨suspended, unwound⟩ := unwound_of_forwarded (poised.apart _ stands.current) forwarded
      obtain ⟨values, runs⟩ := forwarded.runs stands.toRuns
      have grounded := (forwarded.grounded poised.toGrounded).reporting events
      obtain ⟨pushed, kept⟩ := stacked_diverted grounded runs.current started
      obtain ⟨top, current, pushed⟩ := pushed
      refine .inr ⟨⟨top, ?_, ?_⟩, ?_⟩
      · rw [stands.current, ← runs.current]
        exact current
      · rw [← suspended]
        exact pushed
      · intro other member
        rw [← suspended] at member
        exact (kept other member).trans (unwound.kept other member)
  | carried stands forwarded unfinished =>
      exact .inl (unwound_of_forwarded (poised.apart _ stands.current) forwarded).2
  | @ended number inst definition stage values events result stands quiet past exits =>
      have forwarded := State.unwound_forwarded (poised.apart number stands.current) values events
      exact .inl (forwarded.trans (exits.unwound contained (poised.forwarded _ _ _)))

/-- A completion that takes the current instance off the stack resumes it. -/
theorem Completion.resumed (contained : host.Contained) {result : Option Failure × State}
    (completion : Completion host state result) (poised : state.Poised)
    (returned : result.1 = none) {number : Nat} (current : result.2.current = some number)
    (aside : some number ∈ state.suspended) (gone : some number ∉ result.2.suspended) :
    ∃ inst, state.instances[number]? = some inst ∧ Resumed host state number inst result.2 := by
  cases completion with
  | unjudged quiet => cases returned
  | unworded stands quiet => cases returned
  | prompted stands quiet named started =>
      rw [(started_keeps started).1] at gone
      exact absurd (List.mem_cons_of_mem _ aside) gone
  | stuck stands quiet => cases returned
  | misdirected stands forwarded => cases returned
  | redirected stands forwarded found known quiet started =>
      have suspended := (unwound_of_forwarded (poised.apart _ stands.current) forwarded).1
      rw [(started_keeps started).1] at gone
      rw [← suspended] at aside
      exact absurd (List.mem_cons_of_mem _ aside) gone
  | carried stands forwarded unfinished =>
      rw [(unwound_of_forwarded (poised.apart _ stands.current) forwarded).1] at gone
      exact absurd aside gone
  | @ended last inst definition stage values events result stands quiet past exits =>
      obtain ⟨resumed, member, found, later⟩ :=
        exits.resumed contained (poised.forwarded _ _ _) returned current
      have moved := State.unwound_forwarded (poised.apart last stands.current) values events
      refine ⟨resumed, ?_, Resumed.of_suffix later (List.suffix_append _ _)⟩
      rw [← moved.kept number aside]
      exact found

theorem unwound_begun (numbered : state.Numbered) (invocation : Invocation) :
    state.Unwound (state.detached.begun invocation) := by
  refine ⟨⟨0, rfl⟩, ?_⟩
  intro number member
  obtain ⟨same, equal, inRange⟩ := numbered.suspended_lt _ member
  cases equal
  exact List.getElem?_append_left inRange

theorem Passage.framed (contained : host.Contained) {operation : Operation}
    {result : Option Failure × State} (passage : Passage host state operation result)
    (sound : state.Sound) : state.Unwound result.2 ∨ state.Stacked result.2 := by
  have began (invocation : Invocation) := unwound_begun sound.toNumbered invocation
  cases passage with
  | refused refusal => exact .inl (.refl state)
  | registered quiet kept => exact .inl ⟨⟨0, rfl⟩, fun _ _ => rfl⟩
  | @invoked source force invocation reached admitted started =>
      obtain ⟨fewer, kept⟩ := began invocation
      cases started with
      | dispatched stands => exact .inl ⟨fewer, kept⟩
  | stranded admitted => exact .inl (began _)
  | unheard completed unheld => exact .inl ⟨⟨0, rfl⟩, fun _ _ => rfl⟩
  | @completed operation number result completed held completion =>
      rcases completion.framed contained (poised_finishing sound held) with unwound | stacked
      · exact .inl ⟨unwound.fewer, unwound.kept⟩
      · exact .inr ⟨stacked.pushed, stacked.kept⟩

/-- A passage that takes the current instance off the stack resumes it. -/
theorem Passage.resumed (contained : host.Contained) {operation : Operation}
    {result : Option Failure × State} (passage : Passage host state operation result)
    (sound : state.Sound) (returned : result.1 = none) {number : Nat}
    (current : result.2.current = some number) (aside : some number ∈ state.suspended)
    (gone : some number ∉ result.2.suspended) :
    ∃ inst, state.instances[number]? = some inst ∧ Resumed host state number inst result.2 := by
  cases passage with
  | refused refusal => cases returned
  | registered quiet kept => exact absurd aside gone
  | invoked admitted started =>
      cases started with
      | dispatched stands => exact absurd aside gone
  | stranded admitted => cases returned
  | unheard completed unheld => exact absurd aside gone
  | completed completed held completion =>
      exact completion.resumed contained (poised_finishing sound held) returned current aside gone

/-- What is suspended is a stack, whatever becomes of an operation: either entries were taken from
the top, or the instance that was current was put on top.  No instance that stays suspended is
touched, and one that is taken from the stack and is current after an operation that returned
has taken over the answer of the acceptor that was called just before. -/
theorem suspended_lifo (contained : host.Contained) (reachable : Reachable host state)
    {operation : Operation} (controls : operation.controls = true) :
    let taken := Trace.take (perform host) state operation
    (state.Unwound taken.after ∨ state.Stacked taken.after) ∧
      ∀ number, taken.outcome.isOk = true → taken.after.current = some number →
        some number ∈ state.suspended → some number ∉ taken.after.suspended →
          ∃ inst, state.instances[number]? = some inst ∧
            Resumed host state number inst taken.after := by
  intro taken
  have sound := reachable.sound contained
  have passage := take_passage contained sound controls
  refine ⟨passage.framed contained sound, ?_⟩
  intro number returned current aside gone
  exact passage.resumed contained sound ((outcome_take operation).mpr returned) current aside gone

/-- The trip that the detour interrupted is resumed with what the visit contributed. -/
theorem suspended_lifo_detour :
    let taken := Trace.take (perform Detour.host) Detour.visiting (.complete .null)
    Detour.visiting.suspended = [some 0] ∧ taken.after.suspended = [] ∧
      (Detour.visiting.Unwound taken.after ∨ Detour.visiting.Stacked taken.after) ∧
      ∃ inst, Detour.visiting.instances[0]? = some inst ∧
        Resumed Detour.host Detour.visiting 0 inst taken.after := by
  have controls : (Operation.complete .null).controls = true := rfl
  have lifo := suspended_lifo Detour.contained Detour.reachable_visiting controls
  refine ⟨by decide +kernel, by decide +kernel, lifo.1, ?_⟩
  exact lifo.2 0 (by decide +kernel) (by decide +kernel) (by decide +kernel) (by decide +kernel)

end Engine

end Workflow
