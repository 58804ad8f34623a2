import Workflow.Proofs.Growth
import Workflow.Proofs.Lasting

/-!
# Supplies of resumed stages

The tokens of a stage may refer to values that were accumulated.  A stage is dispatched for the
first time only if these are all there, and an instance is put aside only at a stage that was
dispatched or at its end.  Since values only grow, they are still there whenever the instance is
resumed: what an exit fails with comes from an acceptor, from what it contributes, or from a value
that was written over by one that has no text.
-/

namespace Workflow

/-- Why no text is found under a key: there is no value, or one that cannot be written down. -/
inductive ValueMap.Withholds (map : ValueMap) (key : String) : ValueFault → Prop where
  | missing (absent : map.get? key = none) : Withholds map key (.unknownReference (.text key))
  | unwritable {value : Value} (found : map.get? key = some value)
      (long : value.isWritable = false) : Withholds map key .unwritable

/-- The values of an instance to which the tokens of a stage refer are all there. -/
def Instance.Supplies (inst : Instance) (stage : Stage) : Prop :=
  ∀ tokens, stage.tokens = some tokens → ∀ token ∈ tokens, ∀ key,
    Token.classify token = .value key → inst.values.has key = true

/-- A token of a stage refers to a value of which an instance has no text. -/
def Instance.Lacks (inst : Instance) (stage : Stage) (fault : ValueFault) : Prop :=
  ∃ tokens, stage.tokens = some tokens ∧ ∃ token ∈ tokens, ∃ key,
    Token.classify token = .value key ∧ inst.values.Withholds key fault

namespace ValueMap

variable {map : ValueMap} {key : String} {fault : ValueFault}

theorem text_text (map : ValueMap) (key : String) :
    map.text (.text key) =
      match map.get? key with
      | some value => if value.isWritable then .ok value.toText else .error .unwritable
      | none => .error (.unknownReference (.text key)) := by
  simp only [text, require, find?, keyText?, Except.map, bind, Except.bind, Option.bind_some]
  cases map.get? key with
  | none => rfl
  | some value =>
      simp only [pure, Except.pure, Value.toText?]
      cases value.isWritable <;> rfl

theorem text_eq_ok_iff {text : String} : map.text (.text key) = .ok text ↔
    ∃ value, map.get? key = some value ∧ value.isWritable = true ∧ value.toText = text := by
  rw [text_text]
  cases map.get? key with
  | none => simp
  | some value => cases writable : value.isWritable <;> simp [writable]

theorem text_eq_error_iff : map.text (.text key) = .error fault ↔ map.Withholds key fault := by
  rw [text_text]
  constructor
  · intro failed
    cases found : map.get? key with
    | none =>
        simp only [found, Except.error.injEq] at failed
        exact failed ▸ .missing found
    | some value =>
        cases long : value.isWritable with
        | true => simp [found, long] at failed
        | false =>
            simp only [found, long, Bool.false_eq_true, ↓reduceIte, Except.error.injEq] at failed
            exact failed ▸ .unwritable found long
  · rintro (absent | ⟨found, long⟩)
    · simp only [absent]
    · simp only [found, long, Bool.false_eq_true, ↓reduceIte]

end ValueMap

namespace Token

variable {α : Type} {inst : Instance} {ofText : String → α} {default : α} {fault : ValueFault}

theorem resolve_error {token : Token} (failed : token.resolve inst ofText default = .error fault) :
    ∃ key, token = .value key ∧ inst.values.Withholds key fault := by
  cases token with
  | literal text => cases failed
  | parameter name => cases failed
  | value key =>
      simp only [resolve] at failed
      cases shown : inst.values.text (.text key) with
      | ok text => simp [shown, Except.map] at failed
      | error other =>
          simp only [shown, Except.map, Except.error.injEq] at failed
          exact ⟨key, rfl, ValueMap.text_eq_error_iff.mp (failed ▸ shown)⟩

theorem resolve_ok {key : String} {argument : α}
    (resolved : (Token.value key).resolve inst ofText default = .ok argument) :
    inst.values.has key = true := by
  simp only [resolve] at resolved
  cases shown : inst.values.text (.text key) with
  | error fault => simp [shown, Except.map] at resolved
  | ok text =>
      obtain ⟨value, found, -⟩ := ValueMap.text_eq_ok_iff.mp shown
      rw [ValueMap.get?] at found
      rw [ValueMap.has, Entries.has_eq_isSome_lookup, found, Option.isSome_some]

theorem resolveList_error {tokens : List String}
    (failed : resolveList inst ofText default tokens = .error fault) :
    ∃ token ∈ tokens, (classify token).resolve inst ofText default = .error fault := by
  induction tokens with
  | nil => cases failed
  | cons token rest ih =>
      simp only [resolveList] at failed
      cases first : (classify token).resolve inst ofText default with
      | error other =>
          simp only [first, bind, Except.bind, Except.error.injEq] at failed
          exact ⟨token, List.mem_cons_self, failed ▸ first⟩
      | ok argument =>
          cases others : resolveList inst ofText default rest with
          | ok arguments => simp [first, others, bind, Except.bind, pure, Except.pure] at failed
          | error other =>
              simp only [first, others, bind, Except.bind, Except.error.injEq] at failed
              obtain ⟨later, member, refused⟩ := ih (failed ▸ others)
              exact ⟨later, List.mem_cons_of_mem _ member, refused⟩

theorem resolveList_ok {tokens : List String} {arguments : List α}
    (resolved : resolveList inst ofText default tokens = .ok arguments) :
    ∀ token ∈ tokens, ∃ argument, (classify token).resolve inst ofText default = .ok argument := by
  induction tokens generalizing arguments with
  | nil => exact nofun
  | cons token rest ih =>
      simp only [resolveList] at resolved
      cases first : (classify token).resolve inst ofText default with
      | error fault => simp [first, bind, Except.bind] at resolved
      | ok argument =>
          cases others : resolveList inst ofText default rest with
          | error fault => simp [first, others, bind, Except.bind] at resolved
          | ok later => exact List.forall_mem_cons.mpr ⟨⟨argument, first⟩, ih others⟩

end Token

namespace Instance

variable {α : Type} {inst later : Instance} {stage : Stage} {ofText : String → α} {default : α}
  {fault : ValueFault}

/-- Only what is lacking keeps the arguments of a stage from being resolved. -/
theorem lacks_of_unresolved
    (failed : Token.resolveAll inst ofText default stage.tokens = .error fault) :
    inst.Lacks stage fault := by
  cases declared : stage.tokens with
  | none => simp [declared, Token.resolveAll] at failed
  | some tokens =>
      rw [declared, Token.resolveAll] at failed
      cases listed : Token.resolveList inst ofText default tokens with
      | ok arguments => simp [listed, Except.map] at failed
      | error other =>
          simp only [listed, Except.map, Except.error.injEq] at failed
          obtain ⟨token, member, refused⟩ := Token.resolveList_error (failed ▸ listed)
          obtain ⟨key, named, withholds⟩ := Token.resolve_error refused
          exact ⟨tokens, declared, token, member, key, named, withholds⟩

/-- Arguments are resolved only where the values are all there. -/
theorem supplies_of_resolved {arguments : Option (List α)}
    (resolved : Token.resolveAll inst ofText default stage.tokens = .ok arguments) :
    inst.Supplies stage := by
  intro tokens declared token member key named
  rw [declared, Token.resolveAll] at resolved
  cases listed : Token.resolveList inst ofText default tokens with
  | error fault => simp [listed, Except.map] at resolved
  | ok each =>
      obtain ⟨argument, here⟩ := Token.resolveList_ok listed token member
      exact Token.resolve_ok (named ▸ here)

/-- Where all values are there, nothing but a text can be lacking. -/
theorem Supplies.unwritable (supplies : inst.Supplies stage) (lacks : inst.Lacks stage fault) :
    fault = .unwritable := by
  obtain ⟨tokens, declared, token, member, key, named, absent | ⟨found, long⟩⟩ := lacks
  · have present := supplies tokens declared token member key named
    rw [ValueMap.get?] at absent
    rw [ValueMap.has, Entries.has_eq_isSome_lookup, absent] at present
    cases present
  · rfl

theorem Supplies.mono (supplies : inst.Supplies stage) (within : inst.values.Within later.values) :
    later.Supplies stage :=
  fun tokens declared token member key named =>
    within key (supplies tokens declared token member key named)

end Instance

namespace State

/-- The values that the stage of an instance needs are all there, if it has a stage before it. -/
def Supplied (state : State) (number : Nat) : Prop :=
  ∀ inst definition stage, state.instances[number]? = some inst →
    Registry.get state.registry inst.name = .ok definition →
      definition.stage? inst.stage = some stage → inst.Supplies stage

/-- Whatever is suspended has the values that its stage needs. -/
def Stocked (state : State) : Prop :=
  ∀ number, some number ∈ state.suspended → state.Supplied number

/-- What is suspended can be dispatched again, and so can the stage that the engine waits for. -/
structure Provided (state : State) : Prop where
  stocked : state.Stocked
  awaited : state.held ≠ none → ∀ number, state.current = some number → state.Supplied number

variable {state before after : State} {number : Nat} {inst : Instance} {definition : Definition}

theorem Supplied.transfer (supplied : before.Supplied number)
    (same : after.instances[number]? = before.instances[number]?)
    (registry : after.registry = before.registry) : after.Supplied number := by
  intro inst definition stage found defined there
  rw [same] at found
  rw [registry] at defined
  exact supplied inst definition stage found defined there

theorem Stocked.unwound (stocked : before.Stocked) (unwound : before.Unwound after)
    (registry : after.registry = before.registry) : after.Stocked := by
  intro number member
  exact (stocked number (unwound.sublist.mem member)).transfer (unwound.kept number member) registry

/-- What was put aside for a new instance can be dispatched again later on. -/
theorem Stocked.diverted (grounded : state.Grounded) (stocked : state.Stocked)
    (current : state.current = some number) (supplied : state.Supplied number) (inst : Instance)
    (invocation : Invocation) : (state.diverted number inst invocation).Stocked := by
  intro other member
  rcases List.mem_cons.mp member with same | earlier
  · cases same
    exact supplied.transfer
      (Engine.found_diverted state number inst invocation (grounded.current_lt number current)) rfl
  · obtain ⟨same, equal, inRange⟩ := grounded.suspended_lt _ earlier
    cases equal
    exact (stocked other earlier).transfer
      (Engine.found_diverted state number inst invocation inRange) rfl

theorem Stocked.provided (stocked : state.Stocked) (released : state.held = none) :
    state.Provided where
  stocked := stocked
  awaited := fun held => absurd released held

/-- A stage that is dispatched has the values that it needs. -/
theorem Started.provided {result : Option Failure × State} (started : state.Started result)
    (stocked : state.Stocked) (released : state.held = none) : result.2.Provided := by
  cases started with
  | failed => exact stocked.provided released
  | @dispatched number inst definition stage arguments stands resolved =>
      refine ⟨stocked, ?_⟩
      intro _ other current present runsBy again found defined there
      have runs : state.Runs other present runsBy := ⟨current, found, defined⟩
      obtain ⟨rfl, rfl, rfl⟩ := stands.toRuns.unique runs
      cases stands.there.symm.trans there
      exact Instance.supplies_of_resolved resolved

end State

namespace Engine

variable {host : Host} {state : State} {number : Nat} {inst : Instance} {definition : Definition}
  {stage : Stage}

theorem stocked_round (contained : host.Contained) (poised : state.Poised)
    (stocked : state.Stocked) {answered : State} {top : Nat} {resumed : Instance}
    {next : Definition} {contribution : Value} {rest : List (Option Nat)} {values : ValueMap}
    (concluded : Concluded host state number inst definition contribution answered)
    (restoring : Restoring answered contribution top resumed rest next values) :
    (answered.restored top resumed rest values).Stocked :=
  have conclusion := concluded.conclusion contained poised.toGrounded
  stocked.unwound (unwound_round contained poised concluded restoring) conclusion.registry

theorem Exit.provided (contained : host.Contained) {result : Option Failure × State}
    (exits : Exit host state result) (poised : state.Poised) (stocked : state.Stocked) :
    result.2.Provided := by
  have aside := stocked.unwound (exits.unwound contained poised) (exits.registry contained poised)
  induction exits with
  | unanswered runs asked =>
      obtain ⟨edit, events, rfl⟩ := unanswered_reached contained poised.toGrounded runs asked
      exact aside.provided poised.released
  | rested concluded empty =>
      exact aside.provided (concluded.poised contained poised).released
  | unmerged concluded lastAside there merged =>
      exact aside.provided (concluded.poised contained poised).released
  | continued concluded restoring past further ih =>
      exact ih (poised_round contained poised concluded restoring)
        (stocked_round contained poised stocked concluded restoring) aside
  | dispatched concluded restoring unfinished =>
      exact (started_round contained poised concluded restoring).provided
        (stocked_round contained poised stocked concluded restoring)
        (poised_round contained poised concluded restoring).released

/-- Once the next stage is dispatched, the values are there that it needs. -/
theorem startNext_supplied (grounded : state.Grounded) (runs : state.Runs number inst definition)
    (values : ValueMap) {events : List Event} {done : Unit} {advanced : State}
    (started : startNext definition (inst.stage + 1) (state.forwarded number values events) =
      .ok done advanced) : advanced.Supplied number := by
  have counted : 0 ≤ inst.stage + 1 :=
    Int.add_nonneg (grounded.counted number inst runs.found) (by decide)
  have moved := runs.forwarded values events
  rw [startNext, definition.isSome_stageName? counted] at started
  cases past : definition.isCompleteAt (inst.stage + 1) with
  | true =>
      simp only [past, Bool.not_true, Bool.false_eq_true, ↓reduceIte, pure_apply] at started
      cases started
      intro other runsBy stage found defined there
      cases moved.found.symm.trans found
      cases moved.defined.symm.trans defined
      cases there.symm.trans ((definition.stage?_eq_none_iff counted).mpr past)
  | false =>
      have dispatched := startStage_ending (grounded.forwarded number values events) moved
      simp only [past, Bool.not_false, ↓reduceIte] at started
      rw [ending, started] at dispatched
      cases dispatched with
      | dispatched stands resolved =>
          intro other runsBy stage found defined there
          cases moved.found.symm.trans found
          cases moved.defined.symm.trans defined
          obtain ⟨rfl, rfl, rfl⟩ := moved.unique stands.toRuns
          cases stands.there.symm.trans there
          exact Instance.supplies_of_resolved resolved

/-- A redirector of an additive host takes no value away. -/
theorem advise_grown (additive : host.Additive) (grounded : state.Grounded)
    (inRange : number < state.instances.length) (reached : Int) :
    state.Grown (ending (advise host number definition reached) state).2 := by
  simp only [advise]
  cases definition.redirector with
  | none => exact .of_same rfl
  | some redirector =>
      have grown := consult_grown additive grounded.toNumbered redirector number
        (.redirect reached (definition.stageName? reached) true) (.values number)
        (by intro other same; cases same; exact inRange)
      simp only [ending, bind_apply] at grown ⊢
      cases asked : consult host redirector number
          (.redirect reached (definition.stageName? reached) true) (.values number) state with
      | error failure after =>
          rw [asked] at grown
          exact grown
      | ok answer after =>
          rw [asked] at grown
          simp only
          cases redirectTarget answer.2 <;> exact grown

theorem supplied_grown (runs : state.Runs number inst definition) {advanced reached : State}
    (forwarded : state.Forwarded number inst definition advanced)
    (further : state.Forwarded number inst definition reached)
    (supplied : advanced.Supplied number) (grown : advanced.Grown reached) :
    reached.Supplied number := by
  obtain ⟨before, runsBefore⟩ := forwarded.runs runs
  obtain ⟨after, runsAfter⟩ := further.runs runs
  obtain ⟨later, there, within⟩ := grown number _ runsBefore.found
  cases there.symm.trans runsAfter.found
  intro other runsBy stage found defined staged
  cases runsAfter.found.symm.trans found
  cases runsAfter.defined.symm.trans defined
  exact (supplied _ _ stage runsBefore.found runsBefore.defined staged).mono within

theorem provided_forwarded (poised : state.Poised) (stocked : state.Stocked)
    (runs : state.Runs number inst definition) {reached : State}
    (forwarded : state.Forwarded number inst definition reached)
    (supplied : reached.Supplied number) : reached.Provided where
  stocked := stocked.unwound
    (unwound_of_forwarded (poised.apart number runs.current) forwarded).2
    (Forwarded.registry forwarded)
  awaited := by
    intro held other current
    obtain ⟨values, moved⟩ := forwarded.runs runs
    cases moved.current.symm.trans current
    exact supplied

theorem proceed_provided (contained : host.Contained) (poised : state.Poised)
    (stocked : state.Stocked) (runs : state.Runs number inst definition) {reached : State}
    (forwarded : state.Forwarded number inst definition reached)
    (supplied : reached.Supplied number) (name : Option String)
    (target : Option (String × Invocation)) :
    (ending (proceed host number definition name target) reached).2.Provided := by
  have provided := provided_forwarded poised stocked runs forwarded supplied
  have grounded := forwarded.grounded poised.toGrounded
  obtain ⟨values, moved⟩ := forwarded.runs runs
  cases target with
  | none =>
      simp only [ending, proceed, exitIfComplete, bind_apply, instanceAt_apply moved.found]
      cases past : definition.isCompleteAt (inst.stage + 1) with
      | false => exact provided
      | true =>
          have enough :
              reached.suspended.length < reached.suspended.length + 1 + host.patience := by
            omega
          have exits := exit_ending contained grounded moved.current enough
          have counted := poised.counted number inst runs.found
          obtain ⟨later, events, quiet, rfl⟩ := forwarded.last_of_over counted past
          exact exits.provided contained (poised.forwarded _ _ _) provided.stocked
  | some answer =>
      obtain ⟨text, invocation⟩ := answer
      cases known : Registry.get reached.registry invocation.name with
      | error failure =>
          simp only [ending, proceed, redirect, bind_apply, get_apply, known, lift_error]
          exact provided
      | ok target =>
          rw [ending, proceed, redirect_apply moved.current moved.found known]
          have reporting := grounded.reporting
            [.redirecting number name (inst.stage + 1) text]
          have started := diverted_started reporting moved.found known
          have aside : (reached.reporting
            [.redirecting number name (inst.stage + 1) text]).Stocked := provided.stocked
          exact started.provided (aside.diverted reporting moved.current supplied _ _) rfl

theorem accept_provided (additive : host.Additive) (poised : state.Poised)
    (stocked : state.Stocked) (stands : state.AtStage number inst definition stage)
    {events : List Event} (quiet : Event.Quiet events) (name : Option String) {staged : ValueMap}
    (storable : staged.Storable) :
    (ending (accept host number definition name staged)
      (state.reporting events)).2.Provided := by
  have found : (state.reporting events).instances[number]? = some inst := stands.found
  have quietAccepted : Event.Quiet (.accepted number name inst.stage staged :: events) := quiet
  have started := startNext_forwarded poised.toGrounded stands.toRuns
    (inst.values.merged staged) quietAccepted
  have absent := poised.apart number stands.current
  rw [ending, accept_apply found storable]
  have same : (state.reporting events).forwarded number (inst.values.merged staged)
      [.accepted number name inst.stage staged] =
    state.forwarded number (inst.values.merged staged)
      (.accepted number name inst.stage staged :: events) := rfl
  rw [same, bind_apply]
  cases next : startNext definition (inst.stage + 1) (state.forwarded number
      (inst.values.merged staged) (.accepted number name inst.stage staged :: events)) with
  | error failure reached =>
      rw [next] at started
      simp only at started ⊢
      rw [started]
      exact (stocked.unwound (State.unwound_forwarded absent _ _) rfl).provided poised.released
  | ok done advanced =>
      rw [next] at started
      have supplied := startNext_supplied poised.toGrounded stands.toRuns _ next
      have grounded := started.grounded poised.toGrounded
      obtain ⟨values, runs⟩ := started.runs stands.toRuns
      have inRange := grounded.current_lt number runs.current
      have advised := advise_forwarded additive.contained grounded inRange started (inst.stage + 1)
      have grown : advanced.Grown
          (ending (advise host number definition (inst.stage + 1)) advanced).2 :=
        advise_grown additive grounded inRange (inst.stage + 1)
      have kept := supplied_grown stands.toRuns started advised supplied grown
      simp only [bind_apply]
      rw [ending] at advised kept
      generalize advise host number definition (inst.stage + 1) advanced = result at advised kept ⊢
      cases result with
      | error failure reached =>
          exact provided_forwarded poised stocked stands.toRuns advised kept
      | ok target reached =>
          exact proceed_provided additive.contained poised stocked stands.toRuns advised kept name
            target

theorem reject_provided (poised : state.Poised) (stocked : state.Stocked)
    (runs : state.Runs number inst definition) (supplied : state.Supplied number)
    (name : Option String) {error : Value} (writable : error.isWritable = true) :
    (ending (reject number name error) state).2.Provided := by
  obtain ⟨cancel, known⟩ := poised.cancel_known
  have grounded := poised.toGrounded.reporting [.rejected number name inst.stage error]
  have aside : (state.reporting [.rejected number name inst.stage error]).Stocked := stocked
  rw [ending, reject_apply writable runs.current runs.found known]
  cases rejectionText error with
  | error failure =>
      refine State.Stocked.provided ?_ poised.released
      intro other member
      rcases List.mem_cons.mp member with same | earlier
      · cases same
        exact supplied
      · exact stocked other earlier
  | ok text =>
      let invocation : Invocation :=
        ⟨state.settings.cancelWorkflow, some [(cancelErrorArgument, text)]⟩
      have asked : Registry.get state.registry invocation.name = .ok cancel := known
      have started := diverted_started grounded runs.found asked
      exact started.provided (aside.diverted grounded runs.current supplied _ _) rfl

/-- Whatever the output of a stage is, what is suspended afterwards can be dispatched again. -/
theorem stageFinished_provided (additive : host.Additive) (poised : state.detached.Poised)
    (grounded : state.Grounded) (stocked : state.Stocked)
    (runs : state.Runs number inst definition) (supplied : state.Supplied number)
    (payload : Payload) : (ending (stageFinished host payload) state).2.Provided := by
  have released : state.detached.Stocked := stocked
  cases there : definition.stage? inst.stage with
  | none =>
      rw [ending, stageFinished_outOfRange runs there]
      exact released.provided rfl
  | some stage =>
      have stands : state.AtStage number inst definition stage := ⟨runs, there⟩
      have waiting : state.detached.AtStage number inst definition stage :=
        ⟨⟨runs.current, runs.found, runs.defined⟩, there⟩
      have judged := stageFinished_judged additive.contained grounded stands payload
      generalize ending (stageFinished host payload) state = result at judged ⊢
      cases judged with
      | unjudged quiet => exact State.Stocked.provided released rfl
      | @rejected left error events quiet judged =>
          have reporting : (state.detached.reporting events).Runs number inst definition :=
            ⟨runs.current, runs.found, runs.defined⟩
          exact reject_provided (poised.reporting events) stocked reporting supplied _
            (writable_of_judge judged)
      | accepted quiet storable judged =>
          exact accept_provided additive poised released waiting quiet _ storable

theorem Passage.provided (additive : host.Additive) {operation : Operation}
    {result : Option Failure × State} (passage : Passage host state operation result)
    (sound : state.Sound) (provided : state.Provided)
    (spares : ∀ name ∈ operation.registers?, state.Spares name) : result.2.Provided := by
  cases passage with
  | refused refusal => exact provided
  | @registered request failure? registry stamp events quiet kept =>
      have spared := spares request.name rfl
      have supplied {number : Nat} (live : number ∈ state.inProgress)
          (supplied : state.Supplied number) :
          (state.registering registry stamp events).Supplied number := by
        intro inst definition stage found defined
        have same := get_registering (kept.imp_left And.right) (spared number live inst found)
        exact supplied inst definition stage found (same.symm.trans defined)
      exact {
        stocked := fun number member =>
          supplied (State.mem_inProgress.mpr (.inr member)) (provided.stocked number member)
        awaited := fun held number current =>
          have awaited := provided.awaited held number current
          supplied (State.mem_inProgress.mpr (.inl current)) awaited }
  | @invoked source force invocation reached admitted started =>
      have began := provided.stocked.unwound (unwound_begun sound.toNumbered invocation) rfl
      have invoked := started.provided began rfl
      exact ⟨invoked.stocked, invoked.awaited⟩
  | @stranded source force invocation failure admitted =>
      have began := provided.stocked.unwound (unwound_begun sound.toNumbered invocation) rfl
      exact State.Stocked.provided began rfl
  | unheard completed unheld => exact ⟨provided.stocked, provided.awaited⟩
  | @completed operation number result completed held completion told =>
      obtain ⟨output, payload, -, -, rfl⟩ := told
      obtain ⟨current, running⟩ := Option.ne_none_iff_exists'.mp (sound.runs_held number held)
      obtain ⟨inst, definition, runs⟩ := sound.runs running
      have awaited := provided.awaited (by rw [held]; exact nofun) current running
      exact stageFinished_provided additive (poised_finishing sound held)
        (grounded_finishing sound.toGrounded number) provided.stocked
        ⟨runs.current, runs.found, runs.defined⟩ awaited payload

end Engine

/-- An operation that controls the engine, and registers no name that something in progress
bears. -/
structure Taken.Sparing (taken : Taken Operation Failure State Answer) : Prop where
  controls : taken.command.controls = true
  spares : ∀ name ∈ taken.command.registers?, taken.before.Spares name

instance (taken : Taken Operation Failure State Answer) : Decidable taken.Sparing :=
  decidable_of_iff
    (taken.command.controls = true ∧ ∀ name ∈ taken.command.registers?, taken.before.Spares name)
    ⟨fun ⟨controls, spares⟩ => ⟨controls, spares⟩,
      fun sparing => ⟨sparing.controls, sparing.spares⟩⟩

/-- An exit was disrupted: an acceptor failed, what one contributed cannot be stored, or the stage
of the instance that was resumed refers to a value that is there and cannot be written down. -/
inductive Engine.Disrupted (host : Host) (failure : Failure) (after : State) : Prop where
  | unanswered {asking : State} {acceptor : Hook} {number : Nat}
      (asked : consult host acceptor number .accept (.values number) asking = .error failure after)
  | unmerged {contribution : Value} {values written : ValueMap} {fault : ValueFault}
      (merged : ValueMap.merge contribution values = .error fault written)
      (raised : failure = .value fault) (stores : ∀ key, fault ≠ .unknownReference key)
  | illegible {number : Nat} {inst : Instance} {definition : Definition} {stage : Stage}
      (stands : after.AtStage number inst definition stage) (supplies : inst.Supplies stage)
      (lacks : inst.Lacks stage .unwritable) (raised : failure = .value .unwritable)

theorem ValueMap.putAll_ne_unknownReference {entries : List (Value × Value)}
    {map written : ValueMap} {fault : ValueFault}
    (failed : putAll entries map = .error fault written) (missing : Value) :
    fault ≠ .unknownReference missing := by
  induction entries generalizing map with
  | nil => cases failed
  | cons entry rest ih =>
      obtain ⟨key, value⟩ := entry
      simp only [putAll, bind, EStateM.bind] at failed
      cases first : put key value map with
      | ok answer reached =>
          rw [first] at failed
          exact ih failed
      | error other reached =>
          rw [first] at failed
          cases failed
          cases key with
          | text name =>
              simp only [put] at first
              split at first <;> cases first
              intro same
              cases same
          | _ =>
              cases first
              intro same
              cases same

/-- Merging fails because of what it stores, and never because of a value that is missing. -/
theorem ValueMap.merge_ne_unknownReference {other : Value} {map written : ValueMap}
    {fault : ValueFault} (failed : merge other map = .error fault written) (missing : Value) :
    fault ≠ .unknownReference missing := by
  simp only [merge] at failed
  split at failed
  · cases other with
    | dict entries => exact putAll_ne_unknownReference failed missing
    | _ =>
        cases failed
        intro same
        cases same
  · cases failed

namespace Engine

variable {host : Host} {state : State}

/-- A stage at which an instance is resumed is dispatched, unless it refers to a value that cannot
be written down. -/
theorem redispatched (contained : host.Contained) (poised : state.Poised) (stocked : state.Stocked)
    {number top : Nat} {inst resumed : Instance} {definition next : Definition} {answered : State}
    {contribution : Value} {rest : List (Option Nat)} {values : ValueMap}
    (concluded : Concluded host state number inst definition contribution answered)
    (restoring : Restoring answered contribution top resumed rest next values)
    (unfinished : next.isCompleteAt resumed.stage = false) {failure : Failure}
    (failed : (ending startStage (answered.restored top resumed rest values)).1 = some failure) :
    Disrupted host failure (ending startStage (answered.restored top resumed rest values)).2 := by
  have conclusion := concluded.conclusion contained poised.toGrounded
  have answeredPoised := concluded.poised contained poised
  have counted := answeredPoised.counted top resumed restoring.found
  have aside := stocked.unwound (conclusion.unwound (poised.apart number concluded.current))
    conclusion.registry
  cases there : next.stage? resumed.stage with
  | none =>
      cases unfinished.symm.trans ((next.stage?_eq_none_iff counted).mp there)
  | some stage =>
      have supplies : resumed.Supplies stage :=
        aside top restoring.onTop resumed next stage restoring.found restoring.defined there
      have grown := ValueMap.grows_merge contribution resumed.values
      rw [Trace.outcomeOf, restoring.merged] at grown
      have still : ({ resumed with values } : Instance).Supplies stage := supplies.mono grown
      have runs := runs_restored restoring
      have remembers := (poised_round contained poised concluded restoring).remembers
      have dispatches := startStage_apply runs.current runs.found runs.defined there remembers
      cases resolved : Token.resolveAll { resumed with values } id "" stage.tokens with
      | ok arguments =>
          rw [ending, dispatches, resolved] at failed
          cases failed
      | error fault =>
          have lacks := Instance.lacks_of_unresolved resolved
          cases still.unwritable lacks
          rw [ending, dispatches, resolved] at failed ⊢
          cases failed
          exact .illegible ⟨runs, there⟩ still lacks rfl

/-- An exit that fails was disrupted, however many instances it resumed before. -/
theorem Exit.disrupted (contained : host.Contained) {result : Option Failure × State}
    (exits : Exit host state result) (poised : state.Poised) (stocked : state.Stocked)
    {failure : Failure} (failed : result.1 = some failure) : Disrupted host failure result.2 := by
  induction exits with
  | unanswered runs asked =>
      cases failed
      exact .unanswered asked
  | rested concluded empty => cases failed
  | unmerged concluded lastAside there merged =>
      cases failed
      exact .unmerged merged rfl (ValueMap.merge_ne_unknownReference merged)
  | continued concluded restoring past further ih =>
      exact ih (poised_round contained poised concluded restoring)
        (stocked_round contained poised stocked concluded restoring) failed
  | dispatched concluded restoring unfinished =>
      exact redispatched contained poised stocked concluded restoring unfinished failed

theorem take_provided (additive : host.Additive) (sound : state.Sound) (provided : state.Provided)
    {operation : Operation} (sparing : (Trace.take (perform host) state operation).Sparing) :
    (Trace.take (perform host) state operation).after.Sound ∧
      (Trace.take (perform host) state operation).after.Provided := by
  have passage := take_passage additive.contained sound sparing.controls
  exact ⟨passage.sound additive.contained sound,
    passage.provided additive sound provided sparing.spares⟩

theorem provided_final (additive : host.Additive) (sound : state.Sound)
    (provided : state.Provided) {operations : List Operation}
    (sparing : ∀ taken ∈ Trace.run (perform host) state operations, taken.Sparing) :
    (Trace.final (perform host) state operations).Sound ∧
      (Trace.final (perform host) state operations).Provided := by
  induction operations generalizing state with
  | nil => exact ⟨sound, provided⟩
  | cons operation rest ih =>
      obtain ⟨soundAfter, providedAfter⟩ :=
        take_provided additive sound provided (sparing _ List.mem_cons_self)
      apply ih soundAfter providedAfter
      intro taken member
      exact sparing taken (List.mem_cons_of_mem _ member)

theorem provided_freshlyBuilt (fresh : state.FreshlyBuilt) : state.Provided := by
  obtain ⟨-, empty, released, -⟩ := fresh.idle
  refine State.Stocked.provided ?_ released
  intro number member
  rw [empty] at member
  cases member

/-- In every state of a run that registers no name of something in progress, whatever is suspended
before its end has the values that its stage refers to.  So if an operation fails although instances
departed, an acceptor or what it contributed disrupted the exit, or a value that cannot be written
down: resuming never fails for a value that is missing. -/
theorem supplied_of_sparing (additive : host.Additive) {start : State}
    (fresh : start.FreshlyBuilt) {operations : List Operation} {operation : Operation}
    (sparing : ∀ taken ∈ Trace.run (perform host) start (operations ++ [operation]),
      taken.Sparing) :
    let state := Trace.final (perform host) start operations
    let taken := Trace.take (perform host) state operation
    (∀ number inst definition, some number ∈ state.suspended →
        state.instances[number]? = some inst →
          Registry.get state.registry inst.name = .ok definition →
            inst.stage < definition.stageCount →
              ∃ stage, definition.stage? inst.stage = some stage ∧ inst.Supplies stage) ∧
      ∀ failure, taken.outcome = .error failure → taken.after.departures ≠ state.departures →
        Disrupted host failure taken.after := by
  intro state taken
  rw [Trace.run_append] at sparing
  obtain ⟨sound, provided⟩ := provided_final additive fresh.sound (provided_freshlyBuilt fresh)
    fun taken member => sparing taken (List.mem_append_left _ member)
  have last : taken.Sparing := sparing taken (List.mem_append_right _ List.mem_cons_self)
  constructor
  · intro number inst definition member found defined unfinished
    have counted := sound.counted number inst found
    cases there : definition.stage? inst.stage with
    | none =>
        have past := (definition.stage?_eq_none_iff counted).mp there
        simp only [Definition.isCompleteAt, decide_eq_true_eq] at past
        omega
    | some stage =>
        exact ⟨stage, rfl, provided.stocked number member inst definition stage found defined there⟩
  · intro failure failed departed
    have passage := take_passage additive.contained sound last.controls
    obtain ⟨place, current, inst, definition, stage, values, events, held, stands, -, -, exits⟩ :=
      passage.exits_of_departed departed
    have poised := poised_finishing sound held
    have absent := poised.apart current stands.current
    have waiting : (state.finishing place).detached.Stocked := provided.stocked
    have aside := waiting.unwound (State.unwound_forwarded absent values events) rfl
    exact exits.disrupted additive.contained (poised.forwarded _ _ _) aside
      (failure_take.mp failed)

theorem Detour.onlyAdds (program : Nat) (occasion : Occasion) :
    (Detour.programs.behaviour program occasion).OnlyAdds := by
  simp only [Detour.programs]
  split <;> trivial

/-- The trip was put aside before a stage that refers to what was told at the first one, and it is
dispatched there once the visit is over. -/
theorem supplied_of_sparing_detour :
    let operations : List Operation :=
      [.register
          { name := "Trip", plan := "Ask;Go(!who)", redirector := .custom 0 .redirector "detour" },
        .register { name := "Visit", plan := "Look", acceptor := .custom 1 .acceptor "report" },
        .invoke (.text "Trip") false, .complete (.dict [(.text "who", .text "Ann")])]
    let state := Trace.final (perform Detour.host) Detour.start operations
    (∀ taken ∈ Trace.run (perform Detour.host) Detour.start (operations ++ [.complete .null]),
        taken.Sparing) ∧
      state.suspended = [some 0] ∧
      (∃ inst, state.instances[0]? = some inst ∧
        inst.Supplies ⟨"Go", some ["!who"], .alwaysValid⟩) ∧
      (Trace.take (perform Detour.host) state (.complete .null)).outcome.isOk = true := by
  intro operations state
  have additive : Detour.host.Additive := Programs.additive_host Detour.onlyAdds 1
  have sparing : ∀ taken ∈ Trace.run (perform Detour.host) Detour.start
      (operations ++ [.complete .null]), taken.Sparing := by decide +kernel
  have aside : state.suspended = [some 0] := by decide +kernel
  have stands : state.instances[0]?.map (fun inst => (inst.name, inst.stage)) =
      some ("Trip", 1) := by decide +kernel
  obtain ⟨inst, found, standing⟩ := Option.map_eq_some_iff.mp stands
  simp only [Prod.mk.injEq] at standing
  obtain ⟨named, stage⟩ := standing
  let trip : Definition := ⟨"Trip", [⟨"Ask", none, .alwaysValid⟩,
    ⟨"Go", some ["!who"], .alwaysValid⟩], .identityAcceptor,
    some (.custom 0 .redirector "detour" 0)⟩
  have known : (Registry.get state.registry "Trip").toOption = some trip := by decide +kernel
  have defined : Registry.get state.registry inst.name = .ok trip := by
    rw [named]
    exact eq_ok_of_toOption known
  have unfinished : inst.stage < trip.stageCount := by
    rw [stage]
    decide
  obtain ⟨supplied, -⟩ := supplied_of_sparing additive Detour.built sparing
  obtain ⟨next, there, supplies⟩ :=
    supplied 0 inst trip (by rw [aside]; exact List.mem_cons_self) found defined unfinished
  rw [stage] at there
  cases there
  exact ⟨sparing, aside, ⟨inst, found, supplies⟩, by decide +kernel⟩

end Engine

end Workflow
