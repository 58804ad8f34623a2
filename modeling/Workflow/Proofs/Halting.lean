import Workflow.Proofs.Overwriting
import Workflow.Proofs.Storing

/-!
# Merges that halt

A merge that meets an entry which cannot be stored halts there: the entries before it are written,
and those behind it are not looked at.  An instance that was just resumed keeps what it took over of
a contribution on which the merge halts, and stays current.
-/

namespace Workflow

namespace ValueMap

/-- Why an entry cannot be stored.  The key is looked at before the value. -/
inductive Refuses : Value × Value → ValueFault → Prop where
  | key {key value : Value} (unnamed : key.kind ≠ .text) :
      Refuses (key, value) (.keyKind key.kind)
  | value {name : String} {value : Value}
      (unsupported : value.kind ∉ [Kind.text, .bool, .int, .float, .list, .dict, .null]) :
      Refuses (.text name, value) (.valueKind value.kind name)

end ValueMap

namespace Payload

/-- The first entry that cannot be stored is refused, and these are the entries before it. -/
def HaltsAfter (payload earlier : Payload) (fault : ValueFault) : Prop :=
  earlier.Storable ∧ ∃ entry later, payload = earlier ++ entry :: later ∧
    ValueMap.Refuses entry fault

variable {payload earlier : Payload} {entry : Value × Value} {fault : ValueFault}

theorem haltsAfter_nil (refused : ValueMap.Refuses entry fault) (later : Payload) :
    HaltsAfter (entry :: later) [] fault :=
  ⟨nofun, entry, later, rfl, refused⟩

theorem HaltsAfter.cons (halts : payload.HaltsAfter earlier fault)
    (stored : Storable [entry]) : HaltsAfter (entry :: payload) (entry :: earlier) fault := by
  obtain ⟨storable, refused, later, rfl, refuses⟩ := halts
  refine ⟨?_, refused, later, rfl, refuses⟩
  exact List.forall_mem_cons.mpr ⟨stored entry List.mem_cons_self, storable⟩

/-- An entry is refused for its key, for its value, or not at all. -/
theorem storable_or_refuses (entry : Value × Value) :
    Storable [entry] ∨ ∃ fault, ValueMap.Refuses entry fault := by
  obtain ⟨key, value⟩ := entry
  cases key with
  | text name =>
      cases supported : value.kind.isSupported with
      | true => exact .inl (List.forall_mem_singleton.mpr ⟨name, rfl, supported⟩)
      | false =>
          refine .inr ⟨_, .value ?_⟩
          cases kind : value.kind <;> rw [kind] at supported <;> first | decide | cases supported
  | _ => exact .inr ⟨_, .key nofun⟩

/-- Entries that cannot all be stored have a first one that is refused. -/
theorem storable_or_haltsAfter (payload : Payload) :
    payload.Storable ∨ ∃ earlier fault, payload.HaltsAfter earlier fault := by
  induction payload with
  | nil => exact .inl nofun
  | cons entry rest ih =>
      rcases storable_or_refuses entry with stored | ⟨fault, refused⟩
      · rcases ih with storable | ⟨earlier, fault, halts⟩
        · exact .inl (List.forall_mem_cons.mpr ⟨stored entry List.mem_cons_self, storable⟩)
        · exact .inr ⟨entry :: earlier, fault, halts.cons stored⟩
      · exact .inr ⟨[], fault, haltsAfter_nil refused rest⟩

theorem storable_iff : payload.Storable ↔ ∀ entry ∈ payload, entry.1.kind = .text ∧
    entry.2.kind ∈ [Kind.text, .bool, .int, .float, .list, .dict, .null] := by
  constructor
  · intro storable entry member
    obtain ⟨name, named, supported⟩ := storable entry member
    rw [named]
    exact ⟨rfl, ValueMap.mem_supported supported⟩
  · intro fits entry member
    obtain ⟨texts, kinds⟩ := fits entry member
    rcases storable_or_refuses entry with stored | ⟨fault, refused⟩
    · exact stored entry List.mem_cons_self
    · cases refused with
      | key unnamed => exact absurd texts unnamed
      | value unsupported => exact absurd kinds unsupported

/-- Some entry is refused exactly if some key is no text or some value of a kind that is not
accumulated. -/
theorem exists_haltsAfter_iff : (∃ earlier fault, payload.HaltsAfter earlier fault) ↔
    ∃ entry ∈ payload, entry.1.kind ≠ .text ∨
      entry.2.kind ∉ [Kind.text, .bool, .int, .float, .list, .dict, .null] := by
  constructor
  · rintro ⟨earlier, fault, -, entry, later, rfl, refused⟩
    refine ⟨entry, List.mem_append_right _ List.mem_cons_self, ?_⟩
    cases refused with
    | key unnamed => exact .inl unnamed
    | value unsupported => exact .inr unsupported
  · rintro ⟨entry, member, spoiled⟩
    refine (storable_or_haltsAfter payload).resolve_left fun storable => ?_
    obtain ⟨texts, kinds⟩ := storable_iff.mp storable entry member
    exact spoiled.elim (· texts) (· kinds)

end Payload

namespace ValueMap

variable {payload earlier later : Payload} {map middle : ValueMap} {fault : ValueFault}

theorem merge_dict (payload : Payload) : merge (.dict payload) = putAll payload := by
  cases payload <;> rfl

theorem putAll_append (first : putAll earlier map = .ok () middle) (later : Payload) :
    putAll (earlier ++ later) map = putAll later middle := by
  induction earlier generalizing map with
  | nil =>
      cases first
      rfl
  | cons entry rest ih =>
      simp only [putAll, bind, EStateM.bind] at first
      simp only [List.cons_append, putAll, bind, EStateM.bind]
      cases written : put entry.1 entry.2 map with
      | ok done reached =>
          rw [written] at first
          exact ih first
      | error fault reached =>
          rw [written] at first
          cases first

theorem merge_storable (storable : payload.Storable) (map : ValueMap) :
    merge (.dict payload) map = .ok () (map.merged (Value.dict payload).contribution) :=
  merge_contribution storable.isContribution map

theorem Refuses.put {entry : Value × Value} (refused : Refuses entry fault) (map : ValueMap) :
    put entry.1 entry.2 map = .error fault map := by
  cases refused with
  | @key key value unnamed =>
      cases key with
      | text name => exact absurd rfl unnamed
      | _ => rfl
  | @value name value unsupported =>
      have unstored : value.kind.isSupported = false := by
        cases supported : value.kind.isSupported with
        | false => rfl
        | true => exact absurd (mem_supported supported) unsupported
      simp only [ValueMap.put, unstored, Bool.false_eq_true, ↓reduceIte]

/-- A merge that halts has written the entries before the one that is refused. -/
theorem merge_haltsAfter (halts : payload.HaltsAfter earlier fault) (map : ValueMap) :
    merge (.dict payload) map = .error fault (map.merged (Value.dict earlier).contribution) := by
  obtain ⟨storable, entry, later, rfl, refused⟩ := halts
  have written := merge_storable storable map
  rw [merge_dict] at written ⊢
  rw [putAll_append written]
  simp only [putAll, bind, EStateM.bind, refused.put]

/-- A merge fails where the first entry is refused, and only there. -/
theorem merge_eq_error_iff {reached : ValueMap} : merge (.dict payload) map = .error fault reached ↔
    ∃ earlier, payload.HaltsAfter earlier fault ∧
      reached = map.merged (Value.dict earlier).contribution := by
  constructor
  · intro failed
    rcases payload.storable_or_haltsAfter with storable | ⟨earlier, other, halts⟩
    · cases failed.symm.trans (merge_storable storable map)
    · cases failed.symm.trans (merge_haltsAfter halts map)
      exact ⟨earlier, halts, rfl⟩
  · rintro ⟨earlier, halts, rfl⟩
    exact merge_haltsAfter halts map

theorem Refuses.isTypeFault {entry : Value × Value} (refused : Refuses entry fault) :
    fault.isTypeFault = true := by
  cases refused <;> rfl

end ValueMap

theorem ValueCommand.run_update_dict (payload : Payload) :
    run (.update (.dict payload)) = run (.merge (.dict payload)) := by
  simp only [run, storeAll, ValueMap.merge_dict]

/-- The state in which an instance that is current again took over a part of a contribution. -/
def State.halted (answered : State) (top : Nat) (resumed : Instance) (rest : List (Option Nat))
    (taken : ValueMap) : State :=
  (answered.recalled top resumed rest).editing top fun _ => resumed.values.merged taken

theorem State.found_halted {answered : State} {top : Nat} {resumed : Instance}
    (there : answered.instances[top]? = some resumed) (rest : List (Option Nat))
    (taken : ValueMap) :
    (answered.halted top resumed rest taken).instances[top]? =
      some { resumed with values := resumed.values.merged taken } := by
  simp only [halted, editing, changing, recalled, List.getElem?_modify_eq, there]
  rfl

namespace Engine

variable {host : Host} {state answered : State} {number top : Nat} {inst resumed : Instance}
  {definition : Definition} {payload earlier : Payload} {fault : ValueFault}
  {rest : List (Option Nat)}

/-- A round of an exit whose acceptor answers with entries that cannot all be stored is the last
one, and leaves what it resumed current. -/
theorem exit_halted
    (concluded : Concluded host state number inst definition (.dict payload) answered)
    (lastAside : answered.suspended = some top :: rest)
    (there : answered.instances[top]? = some resumed) (halts : payload.HaltsAfter earlier fault)
    (bound : Nat) :
    ending (exit host (bound + 1)) state = (some (.value fault),
      answered.halted top resumed rest (Value.dict earlier).contribution) := by
  have found : (answered.recalled top resumed rest).instances[top]? = some resumed := there
  have edited := editValues_apply found (ValueMap.merge (.dict payload))
  rw [ValueMap.merge_haltsAfter halts] at edited
  simp only [State.recalled] at edited
  have failed : resume (.dict payload) answered = .error (.value fault)
      (answered.halted top resumed rest (Value.dict earlier).contribution) := by
    simp only [resume, bind_apply, pop_apply lastAside there, modify_apply, currentNumber,
      get_apply, pure_apply, edited]
    rfl
  rw [exit_concluded bound concluded]
  simp only [ending, bind_apply, get_apply, lastAside, List.isEmpty_cons, Bool.false_eq_true,
    ↓reduceIte, failed]

/-- The states in which the rounds of an exit begin: the one in which it starts, and then every one
in which what was resumed is over as well. -/
inductive Rounds (host : Host) : State → State → Prop where
  | first (state : State) : Rounds host state state
  | further {state answered later : State} {number top : Nat} {inst resumed : Instance}
      {definition next : Definition} {contribution : Value} {rest : List (Option Nat)}
      {values : ValueMap}
      (concluded : Concluded host state number inst definition contribution answered)
      (restoring : Restoring answered contribution top resumed rest next values)
      (past : next.isCompleteAt resumed.stage = true)
      (rounds : Rounds host (answered.restored top resumed rest values) later) :
      Rounds host state later

/-- An exit ends as each of its rounds does. -/
theorem Rounds.ending_eq {later : State} (rounds : Rounds host state later)
    (contained : host.Contained) (grounded : state.Grounded) {bound : Nat}
    (enough : state.suspended.length < bound) :
    later.Grounded ∧
      ∃ left, ending (exit host bound) state = ending (exit host (left + 1)) later := by
  -- Every round takes an entry off the stack, so the bound is never used up.
  induction rounds generalizing bound with
  | first state =>
      obtain ⟨left, rfl⟩ := Nat.exists_eq_add_one_of_ne_zero (Nat.ne_zero_of_lt enough)
      exact ⟨grounded, left, rfl⟩
  | @further state answered later number top inst resumed definition next contribution rest values
      concluded restoring past rounds ih =>
      obtain ⟨left, rfl⟩ := Nat.exists_eq_add_one_of_ne_zero (Nat.ne_zero_of_lt enough)
      have conclusion := concluded.conclusion contained grounded
      have shorter := conclusion.length_suspended_le
      rw [restoring.lastAside, List.length_cons] at shorter
      have fewer : rest.length < left := by omega
      have restored := grounded_restored (conclusion.grounded concluded.found grounded)
        restoring.lastAside resumed values
      obtain ⟨kept, further, ends⟩ := ih restored fewer
      refine ⟨kept, further, ?_⟩
      rw [exit_resumed left concluded restoring, past, ← ends]
      rfl

/-- When a workflow is over, its instance is one stage further and still current, and what is
suspended is the same. -/
theorem Finishes.runs (contained : host.Contained) (sound : state.Sound) {operation : Operation}
    {ready : State} (finishes : Finishes host state operation number ready) :
    ∃ inst definition values, state.Runs number inst definition ∧
      ready.Runs number { inst with values, stage := inst.stage + 1 } definition ∧
      ready.suspended = state.suspended := by
  obtain ⟨place, values, events, held, current, rfl, exits⟩ := finishes.exits contained sound
  obtain ⟨inst, definition, runs⟩ := sound.toGrounded.runs current
  have released : (state.finishing place).detached.Runs number inst definition :=
    ⟨runs.current, runs.found, runs.defined⟩
  exact ⟨inst, definition, values, runs, released.forwarded values events, rfl⟩

/-- An operation after which a workflow is over fails as soon as an acceptor in the course of the
exit answers with entries that cannot all be stored. -/
theorem Finishes.halted (contained : host.Contained) (sound : state.Sound) {operation : Operation}
    {ready later : State} {leaving : Nat} (finishes : Finishes host state operation leaving ready)
    (rounds : Rounds host ready later)
    (concluded : Concluded host later number inst definition (.dict payload) answered)
    (aside : answered.suspended ≠ []) (halts : payload.HaltsAfter earlier fault) :
    ∃ top resumed rest, answered.suspended = some top :: rest ∧
      answered.instances[top]? = some resumed ∧
      ending (perform host operation) state = (some (.value fault),
        answered.halted top resumed rest (Value.dict earlier).contribution) := by
  obtain ⟨place, values, events, held, current, same, exits⟩ := finishes.exits contained sound
  have poised : ready.Poised := same ▸ (poised_finishing sound held).forwarded leaving values events
  obtain ⟨grounded, left, ends⟩ := rounds.ending_eq contained poised.toGrounded
    (show ready.suspended.length < ready.suspended.length + 1 + host.patience by omega)
  have kept := (concluded.conclusion contained grounded).grounded concluded.found grounded
  obtain ⟨entry, rest, lastAside⟩ := List.exists_cons_of_ne_nil aside
  obtain ⟨top, resumed, rfl, there⟩ :=
    kept.found_suspended (show entry ∈ answered.suspended by simp [lastAside])
  refine ⟨top, resumed, rest, lastAside, there, ?_⟩
  rw [exits, ends, exit_halted concluded lastAside there halts]

end Engine

/-- A merge fails exactly if some key is no text or some value of a kind that is not accumulated.
Then it fails as the first entry that is refused does, and it has done what a merge of the entries
before it does; updating a map is the same.  If an acceptor answers with such entries while
something is suspended, the exit fails in this way whatever hooks do, and so does the operation that
led to the exit: what was resumed is current and took over the entries before the refused one. -/
theorem merge_halts (payload : Payload) :
    (∀ map, (∃ fault reached, ValueMap.merge (.dict payload) map = .error fault reached) ↔
      ∃ entry ∈ payload, entry.1.kind ≠ .text ∨
        entry.2.kind ∉ [Kind.text, .bool, .int, .float, .list, .dict, .null]) ∧
    (∀ map fault reached, ValueMap.merge (.dict payload) map = .error fault reached ↔
      fault.isTypeFault = true ∧ ∃ earlier entry later, payload = earlier ++ entry :: later ∧
        ValueMap.Refuses entry fault ∧ ValueMap.merge (.dict earlier) map = .ok () reached ∧
        reached = map.merged (Value.dict earlier).contribution) ∧
    ValueCommand.run (.update (.dict payload)) = ValueCommand.run (.merge (.dict payload)) ∧
    ∀ earlier fault, payload.HaltsAfter earlier fault →
      let taken := (Value.dict earlier).contribution
      ∀ host state number inst definition answered,
        Engine.Concluded host state number inst definition (.dict payload) answered →
        (∀ top resumed rest, answered.suspended = some top :: rest →
          answered.instances[top]? = some resumed →
          let after := answered.halted top resumed rest taken
          after.current = some top ∧ after.suspended = rest ∧
            after.instances[top]? =
              some { resumed with values := resumed.values.merged taken } ∧
            ∀ bound, Engine.ending (Engine.exit host (bound + 1)) state =
              (some (.value fault), after)) ∧
        (host.Contained → answered.suspended ≠ [] →
          ∀ before operation leaving ready, before.Sound →
          Engine.Finishes host before operation leaving ready → Engine.Rounds host ready state →
          ∃ top resumed rest, answered.suspended = some top :: rest ∧
            answered.instances[top]? = some resumed ∧
            Engine.ending (Engine.perform host operation) before =
              (some (.value fault), answered.halted top resumed rest taken)) := by
  refine ⟨?_, ?_, ValueCommand.run_update_dict payload, ?_⟩
  · intro map
    rw [← Payload.exists_haltsAfter_iff]
    constructor
    · rintro ⟨fault, reached, failed⟩
      obtain ⟨earlier, halts, -⟩ := ValueMap.merge_eq_error_iff.mp failed
      exact ⟨earlier, fault, halts⟩
    · rintro ⟨earlier, fault, halts⟩
      exact ⟨fault, _, ValueMap.merge_haltsAfter halts map⟩
  · intro map fault reached
    rw [ValueMap.merge_eq_error_iff]
    constructor
    · rintro ⟨earlier, ⟨storable, entry, later, parted, refused⟩, rfl⟩
      exact ⟨refused.isTypeFault, earlier, entry, later, parted, refused,
        ValueMap.merge_storable storable map, rfl⟩
    · rintro ⟨-, earlier, entry, later, parted, refused, written, rfl⟩
      rw [ValueMap.merge_dict] at written
      exact ⟨earlier, ⟨(ValueMap.putAll_isOk_iff earlier map).mp ⟨_, written⟩, entry, later, parted,
        refused⟩, rfl⟩
  · intro earlier fault halts taken host state number inst definition answered concluded
    constructor
    · intro top resumed rest lastAside there
      exact ⟨rfl, rfl, State.found_halted there rest taken,
        Engine.exit_halted concluded lastAside there halts⟩
    · intro contained aside before operation leaving ready sound finishes rounds
      exact finishes.halted contained sound rounds concluded aside halts

/-! ## Souvenirs

A visit brings back souvenirs to the trip for which it was made.  The second of them can be carried
no further, so that the third stays behind, although it could be stored. -/

namespace Souvenirs

def found : Payload :=
  [(.text "seen", .bool true), (.text "size", .tuple [.int 1]), (.text "late", .null)]

def programs : Programs :=
  { behaviour := fun program _ =>
      if program = 0 then .reply (.text "Visit") else .reply (.dict found) }

def host : Host := programs.host 1

theorem keepsToMapping (program : Nat) (occasion : Occasion) :
    (programs.behaviour program occasion).KeepsToMapping := by
  simp only [programs]
  split <;> trivial

theorem contained : host.Contained :=
  Programs.contained_host keepsToMapping 1

def operations : List Operation :=
  [.register
      { name := "Trip", plan := "Go;Return", redirector := .custom 0 .redirector "detour" },
    .register { name := "Visit", plan := "Look", acceptor := .custom 1 .acceptor "report" },
    .invoke (.text "Trip") false,
    .complete (.dict [(.text "late", .int 2), (.text "seen", .bool false)])]

/-- The state in which the trip is suspended for the visit. -/
def visiting : State := Trace.final (Engine.perform host) Detour.start operations

theorem wellFormed_visiting : visiting.WellFormed :=
  Engine.wellFormed_final contained (Engine.wellFormed_freshlyBuilt Detour.built)
    (by decide +kernel)

def visit : Definition :=
  ⟨"Visit", [⟨"Look", none, .alwaysValid⟩], .custom 1 .acceptor "report" 1, none⟩

theorem finishes_visiting : ∃ ready inst,
    Engine.Finishes host visiting (.complete .null) 1 ready ∧ ready.Runs 1 inst visit ∧
      ready.suspended = visiting.suspended := by
  have shows : visiting.Shows 1 "Visit" 0 visit ⟨"Look", none, .alwaysValid⟩ 2 := by
    decide +kernel
  obtain ⟨inst, handle, waits, first⟩ := shows.waits
  have accepted (state : State) : ∃ judged,
      Engine.judge host 1 ⟨"Look", none, .alwaysValid⟩ [] state = .ok ([], .ok .empty) judged :=
    ⟨_, rfl⟩
  obtain ⟨judged, accepted⟩ := accepted (visiting.finishing 2).detached
  have past : visit.isCompleteAt (inst.stage + 1) = true := by
    rw [first]
    rfl
  have finishes : Engine.Finishes host visiting (.complete .null) 1 _ :=
    .intro waits (Engine.completed_waits waits .null) rfl rfl accepted past rfl
  obtain ⟨again, definition, values, earlier, runs, kept⟩ :=
    finishes.runs contained wellFormed_visiting.toSound
  obtain ⟨-, -, rfl⟩ := earlier.unique waits.toRuns
  exact ⟨_, _, finishes, runs, kept⟩

theorem concludes {ready : State} {inst : Instance} (runs : ready.Runs 1 inst visit) :
    ∃ answered, Engine.Concluded host ready 1 inst visit (.dict found) answered ∧
      answered.suspended = ready.suspended := by
  have inRange : ∀ number, Shown.values 1 = .values number →
      number < (ready.exiting 1 inst).instances.length := by
    intro other same
    cases same
    simpa [State.exiting, State.changing, State.reporting] using
      (List.getElem?_eq_some_iff.mp runs.found).1
  have asked := Engine.consult_apply host visit.acceptor 1 .accept (.values 1) inRange
  have replies (occasion : Occasion) : programs.behaviour 1 occasion = .reply (.dict found) := rfl
  have arity (mapping : Value) :
      visit.acceptor.arity = (Question.accept.arguments mapping).length := rfl
  rw [if_pos (arity _)] at asked
  simp only [visit, Engine.answerOf, host, Programs.host, replies] at asked
  exact ⟨_, ⟨runs, _, asked⟩, rfl⟩

theorem haltsAfter_found :
    found.HaltsAfter [(.text "seen", .bool true)] (.valueKind .tuple "size") :=
  (Payload.haltsAfter_nil (.value (by decide)) _).cons
    (List.forall_mem_singleton.mpr ⟨"seen", rfl, rfl⟩)

/-- The trip is current again, with the first of the souvenirs and without the others. -/
theorem merge_halts_souvenirs :
    let ending := Engine.ending (Engine.perform host (.complete .null)) visiting
    (∃ (answered : State) (top : Nat) (resumed : Instance) (rest : List (Option Nat)),
      answered.suspended = some top :: rest ∧ answered.instances[top]? = some resumed ∧
      ending = (some (.value (.valueKind .tuple "size")),
        answered.halted top resumed rest ⟨[("seen", .bool true)]⟩)) ∧
      ending.2.current = some 0 ∧
      ending.2.instances.map
        (fun inst => inst.values.entries.map fun entry => (entry.1, entry.2.write)) =
        [[("late", "2"), ("seen", "True")], []] := by
  obtain ⟨ready, inst, finishes, runs, kept⟩ := finishes_visiting
  obtain ⟨answered, concluded, still⟩ := concludes runs
  have aside : answered.suspended ≠ [] := by
    rw [still, kept]
    decide +kernel
  obtain ⟨-, -, -, halting⟩ := merge_halts found
  obtain ⟨-, fails⟩ := halting _ _ haltsAfter_found host ready 1 inst visit answered concluded
  obtain ⟨top, resumed, rest, lastAside, there, ends⟩ := fails contained aside visiting
    (.complete .null) 1 ready wellFormed_visiting.toSound finishes (.first ready)
  exact ⟨⟨answered, top, resumed, rest, lastAside, there, ends⟩, by decide +kernel,
    by decide +kernel⟩

end Souvenirs

end Workflow
