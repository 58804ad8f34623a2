import Workflow.Proofs.Account

/-!
# The ledger of a run

At every moment of a run each instance is in exactly one place.  It is current or suspended as long
as it is in progress, and then it is finished, or abandoned by the decision about a cancelled
workflow, or replaced from outside, and stays where it is.
-/

namespace Workflow

/-- The instance that an operation replaces if it returns. -/
def State.replacedBy (state : State) : Operation → List Nat
  | .invoke _ true => state.current.toList
  | _ => []

/-- The instance that was replaced by an operation that was taken. -/
def Taken.replaced (taken : Taken Operation Failure State Answer) : List Nat :=
  if taken.outcome.isOk then taken.before.replacedBy taken.command else []

/-- All instances that were replaced from outside. -/
def History.replaced (history : History) : List Nat :=
  history.flatMap Taken.replaced

/-- Where an instance can be. -/
inductive Place where
  | current
  | suspended
  | finished
  | abandoned
  | replaced

/-- The places that an instance does not leave again. -/
def Place.isSettled : Place → Bool
  | .current | .suspended => false
  | .finished | .abandoned | .replaced => true

namespace State

/-- An instance is at a place after a run. -/
def At (state : State) (history : History) (number : Nat) : Place → Prop
  | .current => state.current = some number
  | .suspended => some number ∈ state.suspended
  | .finished => ∃ inst, state.instances[number]? = some inst ∧ inst.state = .finished
  | .abandoned => .abandoned number ∈ state.departures
  | .replaced => number ∈ history.replaced

/-- What is true of an instance at a place: it is suspended or accepted no more than once, and when
it is finished, all its stages are over. -/
def Vouched (state : State) (history : History) (number : Nat) : Place → Prop
  | .suspended =>
    state.suspended.count (some number) = 1 ∧ .accepted number ∉ state.departures
  | .finished =>
    state.departures.count (.accepted number) = 1 ∧
      ∃ inst, state.instances[number]? = some inst ∧ history.Closed number inst.name inst.stage
  | .current | .abandoned | .replaced => .accepted number ∉ state.departures

/-- How often an instance is found at a place. -/
def tally (state : State) (history : History) (number : Nat) : Place → Nat
  | .current => state.current.toList.count number
  | .suspended => state.suspended.count (some number)
  | .finished => state.departures.count (.accepted number)
  | .abandoned => state.departures.count (.abandoned number)
  | .replaced => history.replaced.count number

variable {state : State} {history : History} {number : Nat}

theorem count_number (departures : List Departure) (number : Nat) :
    (departures.map Departure.number).count number =
      departures.count (.accepted number) + departures.count (.abandoned number) := by
  induction departures with
  | nil => rfl
  | cons departure rest ih =>
      cases departure with
      | accepted other =>
          simp only [List.map_cons, List.count_cons, Departure.number, ih, beq_iff_eq,
            Departure.accepted.injEq, reduceCtorEq, ↓reduceIte]
          omega
      | abandoned other =>
          simp only [List.map_cons, List.count_cons, Departure.number, ih, beq_iff_eq,
            Departure.abandoned.injEq, reduceCtorEq, ↓reduceIte]
          omega

theorem count_filterMap (entries : List (Option Nat)) (number : Nat) :
    (entries.filterMap id).count number = entries.count (some number) := by
  induction entries with
  | nil => rfl
  | cons entry rest ih =>
      cases entry with
      | none =>
          have skipped : (none :: rest).filterMap id = rest.filterMap id := rfl
          have different : (none == some number) = false := rfl
          rw [skipped, ih, List.count_cons, different]
          rfl
      | some other =>
          have taken : (some other :: rest).filterMap id = other :: rest.filterMap id := rfl
          have same : (some other == some number) = (other == number) := rfl
          rw [taken, List.count_cons, List.count_cons, ih, same]

/-- Every instance is found once, at all places together. -/
theorem tally_sum (accounted : state.Accounted history.Closed history.replaced)
    (made : number < state.instances.length) :
    state.tally history number .current + state.tally history number .suspended +
      state.tally history number .finished + state.tally history number .abandoned +
      state.tally history number .replaced = 1 := by
  have total := accounted.balance.count_eq number
  have once : (List.range state.instances.length).count number = 1 := by
    rw [List.count_range, if_pos made]
  simp only [inProgress, List.count_append, count_number, count_filterMap, once] at total
  simp only [tally]
  omega

/-- An instance is at the places at which it is found. -/
theorem at_iff_tally (accounted : state.Accounted history.Closed history.replaced)
    (made : number < state.instances.length) (place : Place) :
    state.At history number place ↔ 0 < state.tally history number place := by
  cases place with
  | current => simp [At, tally, List.count_pos_iff]
  | suspended => simp [At, tally, List.count_pos_iff]
  | abandoned => simp [At, tally, List.count_pos_iff]
  | replaced => simp [At, tally, List.count_pos_iff]
  | finished =>
      have found := List.getElem?_eq_getElem made
      have lifecycle := accounted.lifecycle number _ found
      rw [tally, List.count_pos_iff]
      constructor
      · rintro ⟨inst, there, finished⟩
        cases found.symm.trans there
        rw [finished] at lifecycle
        cases accepted : state.departures.contains (.accepted number) with
        | true => exact List.contains_iff_mem.mp accepted
        | false =>
            rw [accepted] at lifecycle
            cases lifecycle
      · intro accepted
        rw [List.contains_iff_mem.mpr accepted] at lifecycle
        exact ⟨_, found, lifecycle⟩

theorem exists_tally (accounted : state.Accounted history.Closed history.replaced)
    (made : number < state.instances.length) :
    ∃ place, 0 < state.tally history number place := by
  have sum := tally_sum accounted made
  have found : 0 < state.tally history number .current ∨
      0 < state.tally history number .suspended ∨ 0 < state.tally history number .finished ∨
      0 < state.tally history number .abandoned ∨ 0 < state.tally history number .replaced := by
    omega
  rcases found with here | here | here | here | here
  · exact ⟨.current, here⟩
  · exact ⟨.suspended, here⟩
  · exact ⟨.finished, here⟩
  · exact ⟨.abandoned, here⟩
  · exact ⟨.replaced, here⟩

theorem tally_unique (accounted : state.Accounted history.Closed history.replaced)
    (made : number < state.instances.length) {place other : Place}
    (here : 0 < state.tally history number place) (also : 0 < state.tally history number other) :
    other = place := by
  have sum := tally_sum accounted made
  cases place <;> cases other <;> first | rfl | omega

theorem vouched_of_tally (accounted : state.Accounted history.Closed history.replaced)
    (made : number < state.instances.length) {place : Place}
    (here : 0 < state.tally history number place) : state.Vouched history number place := by
  have sum := tally_sum accounted made
  have unaccepted (none : state.tally history number .finished = 0) :
      .accepted number ∉ state.departures := List.count_eq_zero.mp none
  cases place with
  | current => exact unaccepted (by omega)
  | abandoned => exact unaccepted (by omega)
  | replaced => exact unaccepted (by omega)
  | suspended =>
      have once : state.tally history number .suspended = 1 := by omega
      exact ⟨once, unaccepted (by omega)⟩
  | finished =>
      have once : state.tally history number .finished = 1 := by omega
      have accepted : .accepted number ∈ state.departures := List.count_pos_iff.mp here
      have found := List.getElem?_eq_getElem made
      exact ⟨once, _, found, accounted.settled number _ found accepted⟩

/-- An instance is in exactly one place, and what holds of that place is true of it. -/
theorem Accounted.placed (accounted : state.Accounted history.Closed history.replaced)
    (made : number < state.instances.length) :
    ∃ place, state.At history number place ∧ state.Vouched history number place ∧
      ∀ other, state.At history number other → other = place := by
  obtain ⟨place, here⟩ := exists_tally accounted made
  refine ⟨place, (at_iff_tally accounted made place).mpr here,
    vouched_of_tally accounted made here, ?_⟩
  intro other also
  exact tally_unique accounted made here ((at_iff_tally accounted made other).mp also)

/-- An instance that is at a settled place has departed or was replaced. -/
theorem departed_of_settled (accounted : state.Accounted history.Closed history.replaced)
    (made : number < state.instances.length) {place : Place} (settled : place.isSettled = true)
    (here : state.At history number place) :
    number ∈ state.departures.map Departure.number ++ history.replaced := by
  rw [at_iff_tally accounted made] at here
  have count : 0 < (state.departures.map Departure.number ++ history.replaced).count number := by
    rw [List.count_append, count_number]
    cases place with
    | current => cases settled
    | suspended => cases settled
    | finished | abandoned | replaced =>
        simp only [tally] at here
        omega
  exact List.count_pos_iff.mp count

theorem Accounted.not_inProgress {settled : Nat → String → Int → Prop} {replaced : List Nat}
    (accounted : state.Accounted settled replaced)
    (gone : number ∈ state.departures.map Departure.number ++ replaced) :
    number ∉ state.inProgress := by
  have nodup := accounted.nodup
  rw [← List.append_assoc] at nodup
  obtain ⟨-, -, disjoint⟩ := List.nodup_append.mp nodup
  intro member
  exact disjoint number gone number member rfl

end State

namespace Engine

variable {host : Host} {state : State} {history : History}

theorem replacedBy_of_completed {operation : Operation} {number : Nat}
    (completed : state.completed operation = .ok number) : state.replacedBy operation = [] := by
  cases operation with
  | complete output => rfl
  | finish position output => rfl
  | _ => cases completed

/-- A workflow that is let in without force finds none that is running. -/
theorem free_of_admitted {source : InvocationSource} {force : Bool} {invocation : Invocation}
    (admitted : state.admitted source force = .ok invocation) : state.free force = .ok () := by
  cases free : state.free force with
  | ok answer => rfl
  | error failure =>
      simp only [State.admitted, State.requested, free, bind, Except.bind] at admitted
      cases source with
      | text text => cases admitted
      | fields name arguments =>
          cases fields : invocationOfFields name arguments <;> simp [fields] at admitted

theorem replacedBy_of_admitted {source : InvocationSource} {force : Bool} {invocation : Invocation}
    (admitted : state.admitted source force = .ok invocation) :
    state.replacedBy (.invoke source force) = state.current.toList := by
  cases force with
  | true => rfl
  | false =>
      have free := free_of_admitted admitted
      cases current : state.current with
      | none => rfl
      | some number =>
          simp only [State.free, current, Bool.false_eq_true, ↓reduceIte] at free
          split at free <;> cases free

/-- An operation that returns keeps the account, with what it replaced. -/
theorem Passage.accounted (contained : host.Contained) {operation : Operation} {reached : State}
    (passage : Passage host state operation (none, reached)) (wellFormed : state.WellFormed)
    {replaced : List Nat} (accounted : state.Accounted (history.Closing state) replaced) :
    reached.Accounted (history.Closing state) (replaced ++ state.replacedBy operation) ∧
      ∀ departure ∈ state.departures, departure ∈ reached.departures := by
  cases passage with
  | @registered request failure? registry stamp events quiet kept =>
      have departures : (state.registering registry stamp events).departures = state.departures :=
        state.departures_reporting quiet
      have nothing : state.replacedBy (.register request) = [] := rfl
      rw [departures, nothing, List.append_nil]
      exact ⟨accounted.of_alike (.of_same rfl) rfl departures, fun _ member => member⟩
  | @invoked source force invocation reached admitted started =>
      have inProgress : (replaced ++ state.current.toList ++
          (state.detached.begun invocation).inProgress).Perm
          (state.instances.length :: (replaced ++ state.inProgress)) := by
        have before : replaced ++ state.inProgress =
            replaced ++ state.current.toList ++ state.suspended.filterMap id :=
          (List.append_assoc ..).symm
        rw [before]
        exact List.perm_middle
      have began : (state.detached.begun invocation).Accounting history state
          (replaced ++ state.current.toList) := {
        toAccounted := accounted.begun rfl rfl inProgress
        registry := rfl
        further := fun _ member => member }
      have quiet : Event.Quiet [.returned state.instances.length] := rfl
      have invoked := (accounting_started began started).reporting quiet
      rw [replacedBy_of_admitted admitted]
      exact ⟨invoked.toAccounted, invoked.further⟩
  | unheard completed unheld =>
      rw [replacedBy_of_completed completed, List.append_nil]
      exact ⟨accounted.of_alike (.of_same rfl) rfl rfl, fun _ member => member⟩
  | @completed operation number result completed held completion =>
      rw [replacedBy_of_completed completed, List.append_nil]
      have accounting : (state.finishing number).detached.Accounting history state replaced := {
        toAccounted := accounted.of_alike (.of_same rfl) rfl rfl
        registry := rfl
        further := fun _ member => member }
      have kept := completion.accounting contained (poised_finishing wellFormed.toSound held)
        wellFormed.resumable accounting rfl
      exact ⟨kept.toAccounted, kept.further⟩

theorem closed_append {taken : Taken Operation Failure State Answer} {number : Nat} {name : String}
    {stage : Int} (closing : history.Closing taken.before number name stage)
    (accepted : .accepted number ∈ taken.after.departures) :
    History.Closed (history ++ [taken]) number name stage := by
  by_cases earlier : .accepted number ∈ taken.before.departures
  · obtain ⟨old, member, facts⟩ := closing.1 earlier
    exact ⟨old, List.mem_append_left _ member, facts⟩
  · exact ⟨taken, List.mem_append_right _ List.mem_cons_self, earlier, accepted,
      closing.2 earlier⟩

theorem replaced_append (history : History) (taken : Taken Operation Failure State Answer) :
    History.replaced (history ++ [taken]) = history.replaced ++ taken.replaced := by
  simp [History.replaced]

/-- An operation after which all instances stand where they stood keeps the ledger. -/
theorem accounted_untouched (accounted : state.Accounted history.Closed history.replaced)
    {taken : Taken Operation Failure State Answer} (replaced : taken.replaced = [])
    (alike : state.Alike taken.after) (inProgress : taken.after.inProgress = state.inProgress)
    (departures : taken.after.departures = state.departures) :
    taken.after.Accounted (History.Closed (history ++ [taken]))
      (History.replaced (history ++ [taken])) := by
  rw [replaced_append, replaced, List.append_nil]
  apply (accounted.of_alike alike inProgress departures).mono
  rintro number name stage - ⟨old, member, facts⟩
  exact ⟨old, List.mem_append_left _ member, facts⟩

theorem Passage.untouched_of_register {request : RegistrationRequest}
    {result : Option Failure × State} (passage : Passage host state (.register request) result) :
    result.2.instances = state.instances ∧ result.2.inProgress = state.inProgress ∧
      result.2.departures = state.departures := by
  cases passage with
  | refused refusal => exact ⟨rfl, rfl, rfl⟩
  | registered quiet kept => exact ⟨rfl, rfl, state.departures_reporting quiet⟩
  | unheard completed unheld => cases completed
  | completed completed held completion => cases completed

/-- An operation that returns, or is refused by its own checks, keeps the ledger, and what departed
has departed for good. -/
theorem take_accounted (contained : host.Contained) (wellFormed : state.WellFormed)
    (accounted : state.Accounted history.Closed history.replaced) {operation : Operation}
    (orderly : (Trace.take (perform host) state operation).Orderly) :
    let taken := Trace.take (perform host) state operation
    taken.after.Accounted (History.Closed (history ++ [taken]))
        (History.replaced (history ++ [taken])) ∧
      ∀ departure ∈ state.departures, departure ∈ taken.after.departures := by
  intro taken
  have controls : operation.controls = true := orderly.controls
  have passage := take_passage contained wellFormed.toSound controls
  rcases orderly.ended with returned | refused | registers
  · rw [(outcome_take operation).mpr returned] at passage
    have closing : state.Accounted (history.Closing state) history.replaced :=
      accounted.mono fun number name stage accepted closed =>
        ⟨fun _ => closed, fun absent => absurd accepted absent⟩
    obtain ⟨kept, further⟩ := passage.accounted contained wellFormed closing
    refine ⟨?_, further⟩
    have replaced : taken.replaced = state.replacedBy operation := if_pos returned
    rw [replaced_append, replaced]
    exact kept.mono fun number name stage accepted closing => closed_append closing accepted
  · obtain ⟨failure, refusal⟩ := Option.isSome_iff_exists.mp refused
    have ended := passage.of_refusal refusal
    have same : taken.after = state := congrArg Prod.snd ended
    have failed : ¬ taken.outcome.isOk = true := by
      rw [← outcome_take, congrArg Prod.fst ended]
      exact nofun
    have untouched := accounted_untouched accounted (if_neg failed : taken.replaced = [])
      (.of_same (congrArg State.instances same)) (congrArg State.inProgress same)
      (congrArg State.departures same)
    refine ⟨untouched, ?_⟩
    rw [same]
    exact fun _ member => member
  · cases operation with
    | register request =>
        obtain ⟨instances, inProgress, departures⟩ := passage.untouched_of_register
        have replaced : taken.replaced = [] := ite_self _
        refine
          ⟨accounted_untouched accounted replaced (.of_same instances) inProgress departures, ?_⟩
        intro departure member
        rw [departures]
        exact member
    | _ => cases registers

/-- A run keeps the ledger, and what departed or was replaced before has done so for good. -/
theorem accounted_final (contained : host.Contained) (wellFormed : state.WellFormed)
    (accounted : state.Accounted history.Closed history.replaced) {operations : List Operation}
    (orderly : ∀ taken ∈ Trace.run (perform host) state operations, taken.Orderly) :
    let run := history ++ Trace.run (perform host) state operations
    let reached := Trace.final (perform host) state operations
    reached.Accounted (History.Closed run) (History.replaced run) ∧
      ∀ departure ∈ state.departures, departure ∈ reached.departures := by
  induction operations generalizing state history with
  | nil =>
      simp only [Trace.run, List.append_nil]
      exact ⟨accounted, fun _ member => member⟩
  | cons operation rest ih =>
      have first := orderly _ List.mem_cons_self
      obtain ⟨kept, further⟩ := take_accounted contained wellFormed accounted first
      obtain ⟨reached, later⟩ := ih (take_wellFormed contained wellFormed first) kept
        fun taken member => orderly taken (List.mem_cons_of_mem _ member)
      rw [List.append_assoc] at reached
      exact ⟨reached, fun departure member => later departure (further departure member)⟩

theorem accounted_freshlyBuilt (fresh : state.FreshlyBuilt) :
    state.Accounted (History.Closed []) (History.replaced []) := by
  have departures := fresh.departures
  obtain ⟨registry, settings, backend, stamp, definition, events, -, rfl⟩ := fresh.registered
  exact {
    balance := by
      rw [departures]
      exact .refl _
    lifecycle := nofun
    settled := nofun }

/-- At every moment of a run of which each operation returned or was refused by its own checks,
every instance is in exactly one place.  One that is finished, abandoned or replaced is neither
current nor suspended at any later moment. -/
theorem placed_of_orderly (contained : host.Contained) {start : State}
    (fresh : start.FreshlyBuilt) {operations further : List Operation}
    (orderly : ∀ taken ∈ Trace.run (perform host) start (operations ++ further), taken.Orderly) :
    let history := Trace.run (perform host) start operations
    let state := Trace.final (perform host) start operations
    let later := Trace.final (perform host) start (operations ++ further)
    ∀ number < state.instances.length, ∃ place,
      state.At history number place ∧ state.Vouched history number place ∧
        (∀ other, state.At history number other → other = place) ∧
        (place.isSettled = true →
          later.current ≠ some number ∧ some number ∉ later.suspended) := by
  intro history state later number made
  rw [Trace.run_append] at orderly
  have wellFormedStart := wellFormed_freshlyBuilt fresh
  have first : ∀ taken ∈ history, taken.Orderly :=
    fun taken member => orderly taken (List.mem_append_left _ member)
  have second : ∀ taken ∈ Trace.run (perform host) state further, taken.Orderly :=
    fun taken member => orderly taken (List.mem_append_right _ member)
  have wellFormed : state.WellFormed := wellFormed_final contained wellFormedStart first
  obtain ⟨accounted, -⟩ :=
    accounted_final contained wellFormedStart (accounted_freshlyBuilt fresh) first
  simp only [List.nil_append] at accounted
  have final : later = Trace.final (perform host) state further := List.foldl_append
  obtain ⟨accountedLater, departures⟩ := accounted_final contained wellFormed accounted second
  rw [← final] at accountedLater departures
  obtain ⟨place, here, vouched, unique⟩ := accounted.placed made
  refine ⟨place, here, vouched, unique, ?_⟩
  intro settled
  have gone := State.departed_of_settled accounted made settled here
  have goneLater : number ∈ later.departures.map Departure.number ++
      History.replaced (history ++ Trace.run (perform host) state further) := by
    rcases List.mem_append.mp gone with departed | replaced
    · obtain ⟨departure, member, rfl⟩ := List.mem_map.mp departed
      exact List.mem_append_left _ (List.mem_map_of_mem (departures departure member))
    · rw [History.replaced, List.flatMap_append]
      exact List.mem_append_right _ (List.mem_append_left _ replaced)
  have absent := accountedLater.not_inProgress goneLater
  rw [State.mem_inProgress, not_or] at absent
  exact absent

/-- The visit is finished, and neither the rest of the trip nor a trip by force brings it back. -/
theorem placed_of_orderly_detour :
    let operations := Detour.operations ++ [.complete .null]
    let further := [.complete .null, .invoke (.text "Trip") true]
    let later := Trace.final (perform Detour.host) Detour.start (operations ++ further)
    (∀ taken ∈ Trace.run (perform Detour.host) Detour.start (operations ++ further),
        taken.Orderly) ∧
      (Trace.final (perform Detour.host) Detour.start operations).At
        (Trace.run (perform Detour.host) Detour.start operations) 1 .finished ∧
      later.current ≠ some 1 ∧ some 1 ∉ later.suspended := by
  intro operations further later
  have orderly : ∀ taken ∈ Trace.run (perform Detour.host) Detour.start (operations ++ further),
      taken.Orderly := by decide +kernel
  have stands : (Trace.final (perform Detour.host) Detour.start operations).instances[1]?.map
      (·.state) = some .finished := by decide +kernel
  have finished := Option.map_eq_some_iff.mp stands
  have made : 1 < (Trace.final (perform Detour.host) Detour.start operations).instances.length := by
    decide +kernel
  obtain ⟨place, -, -, unique, settled⟩ :=
    placed_of_orderly Detour.contained Detour.built orderly 1 made
  cases unique .finished finished
  exact ⟨orderly, finished, settled rfl⟩

end Engine

end Workflow
