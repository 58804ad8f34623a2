import Workflow.Proofs.Course

/-!
# What is current is not suspended as well

An instance that is put aside makes room for another one.  The engine puts the current instance
aside before it makes the invocation of the prompt, though, and no invocation is made of a rejection
whose message is no text.  The instance is current and suspended then, until another workflow is
invoked.  This is the only way in which an instance comes to be in two places: a rejection that
cannot even be written into the log puts nothing aside.
-/

namespace Workflow

namespace Trace

variable {κ ε σ α : Type} {happened ended : Taken κ ε σ α → Prop} {history : List (Taken κ ε σ α)}

/-- Something happened, and nothing ended it since. -/
def Since (happened ended : Taken κ ε σ α → Prop) (history : List (Taken κ ε σ α)) : Prop :=
  ∃ earlier taken later, history = earlier ++ taken :: later ∧ happened taken ∧
    ∀ other ∈ later, ¬ ended other

theorem not_since_nil : ¬ Since happened ended ([] : List (Taken κ ε σ α)) := by
  rintro ⟨earlier, taken, later, split, -⟩
  cases earlier <;> cases split

/-- Whether something goes on is settled by the last command and by what went on before it. -/
theorem since_concat {last : Taken κ ε σ α} : Since happened ended (history ++ [last]) ↔
    happened last ∨ Since happened ended history ∧ ¬ ended last := by
  constructor
  · rintro ⟨earlier, taken, later, split, happens, lasts⟩
    rcases List.eq_nil_or_concat later with rfl | ⟨others, final, rfl⟩
    · obtain ⟨-, same⟩ := List.append_inj' split rfl
      cases same
      exact .inl happens
    · rw [List.concat_eq_append, ← List.cons_append, ← List.append_assoc] at split
      obtain ⟨whole, same⟩ := List.append_inj' split rfl
      cases same
      rw [List.concat_eq_append] at lasts
      refine .inr ⟨⟨earlier, taken, others, whole, happens, ?_⟩, lasts last (by simp)⟩
      intro other member
      exact lasts other (List.mem_append_left _ member)
  · rintro (happens | ⟨⟨earlier, taken, later, rfl, happens, lasts⟩, still⟩)
    · exact ⟨history, last, [], rfl, happens, nofun⟩
    · refine ⟨earlier, taken, later ++ [last], by simp, happens, ?_⟩
      intro other member
      rcases List.mem_append.mp member with before | final
      · exact lasts other before
      · cases List.mem_singleton.mp final
        exact still

end Trace

namespace Engine

variable {host : Host} {state : State} {number : Nat} {inst : Instance} {definition : Definition}
  {stage : Stage} {payload : Payload}

/-- The validator of the stage that an operation completes rejects the output with something that
the log can show and of which no message can be made. -/
def Wordless (host : Host) (state : State) (operation : Operation) : Prop :=
  ∃ number inst definition stage place payload shown answer verdict reached failure,
    state.AtStage number inst definition stage ∧ state.Hears operation place payload ∧
      consult host stage.validator number .validate (.output payload)
        (state.finishing place).detached = .ok (shown, answer) reached ∧
      Verdict.ofAnswer answer = .ok verdict ∧ verdict.valid = false ∧
      verdict.error.isWritable = true ∧ rejectionText verdict.error = .error failure

/-- A judgement that is no message comes from the validator itself. -/
theorem verdict_of_judge {left : Payload} {error : Value} {failure : Failure} {reached : State}
    (judged : judge host number stage payload state = .ok (left, .error error) reached)
    (wordless : rejectionText error = .error failure) :
    ∃ shown answer verdict after, consult host stage.validator number .validate (.output payload)
        state = .ok (shown, answer) after ∧ Verdict.ofAnswer answer = .ok verdict ∧
      verdict.valid = false ∧ verdict.error = error := by
  obtain ⟨shown, answer, verdict, consulted, said, -, rejected, -⟩ := judge_eq_ok_iff.mp judged
  rcases Verdict.error_of_stage rejected with own | ⟨fault, rfl⟩
  · exact ⟨shown, answer, verdict, reached, consulted, said, own⟩
  · cases wordless

/-- A rejection without a message leaves the current instance suspended as well. -/
theorem not_apart_of_wordless (contained : host.Contained) (sound : state.Sound)
    {operation : Operation} (wordless : Wordless host state operation) :
    ¬ (ending (perform host operation) state).2.Apart := by
  obtain ⟨number, inst, definition, stage, place, payload, shown, answer, verdict, reached, failure,
    stands, hears, consulted, said, invalid, writable, failed⟩ := wordless
  obtain ⟨cancel, known⟩ := sound.cancel_known
  have waiting : (state.finishing place).AtStage number inst definition stage :=
    ⟨⟨stands.current, stands.found, stands.defined⟩, stands.there⟩
  have rejected : verdict.stage shown.payload = .error verdict.error := by
    simp [Verdict.stage, invalid]
  have judged := judge_eq_ok_iff.mpr ⟨shown, answer, verdict, consulted, said, rfl, rejected,
    fun error same => Except.error.inj same ▸ writable⟩
  obtain ⟨events, -, kept⟩ := judge_reporting contained
    (poised_finishing sound hears.held).toGrounded number stage payload
  rw [judged] at kept
  obtain ⟨rfl, -⟩ := kept
  let after := (state.finishing place).detached.reporting events
  have current : after.current = some number := stands.current
  have found : after.instances[number]? = some inst := stands.found
  have asked : Registry.get after.registry after.settings.cancelWorkflow = .ok cancel := known
  have put : ending (perform host operation) state = (some failure, (after.reporting
      [.rejected number (definition.stageName? inst.stage) inst.stage verdict.error]).asided number
        inst) := by
    rw [ending_hears sound hears, ending, stageFinished_apply waiting, bind_apply, judged]
    simp only [bind_apply]
    rw [reject_apply writable current found asked, failed]
  rw [put]
  intro apart
  exact apart number current List.mem_cons_self

theorem apart_started {result : Option Failure × State} (started : state.Started result)
    (apart : state.Apart) : result.2.Apart := by
  cases started <;> exact apart

/-- An exit leaves nothing suspended that is current. -/
theorem Exit.apart (contained : host.Contained) {result : Option Failure × State}
    (exits : Exit host state result) (poised : state.Poised) : result.2.Apart := by
  induction exits with
  | unanswered runs asked =>
      obtain ⟨edit, events, rfl⟩ := unanswered_reached contained poised.toGrounded runs asked
      exact poised.apart
  | rested concluded empty => exact nofun
  | @unmerged state answered number top inst resumed definition contribution rest fault values
      concluded lastAside there merged =>
      exact ((concluded.poised contained poised).recalled resumed lastAside).apart
  | continued concluded restoring past further ih =>
      exact ih (poised_round contained poised concluded restoring)
  | dispatched concluded restoring unfinished =>
      exact apart_started (started_round contained poised concluded restoring)
        (poised_round contained poised concluded restoring).apart

/-- Where an instance was put aside for a new one, nothing is current that is suspended. -/
theorem apart_diverted (sound : state.Sound) (apart : state.Apart)
    (current : state.current = some number) (found : state.instances[number]? = some inst)
    {invocation : Invocation} {target : Definition}
    (known : Registry.get state.registry invocation.name = .ok target) :
    (ending startStage (state.diverted number inst invocation)).2.Apart :=
  apart_started (diverted_started sound.toGrounded found known)
    (sound.diverted found (apart number current) known).apart

/-- Unless the output is rejected without a message, nothing is current afterwards that is
suspended. -/
theorem Course.apart (contained : host.Contained) (poised : state.Poised)
    {result : Option Failure × State} (course : Course host state payload result)
    (worded : ∀ number inst definition stage left error failure reached,
      state.AtStage number inst definition stage →
        judge host number stage payload state = .ok (left, .error error) reached →
          rejectionText error ≠ .error failure) : result.2.Apart := by
  cases course with
  | missing runs absent => exact poised.apart
  | unjudged stands failed => exact poised.apart
  | unworded stands judged wordless =>
      exact absurd wordless (worded _ _ _ _ _ _ _ _ stands judged)
  | @prompted number inst definition stage left error text events stands judged =>
      obtain ⟨cancel, known⟩ := poised.cancel_known
      have reporting := (poised.reporting events).reporting
        [.rejected number (definition.stageName? inst.stage) inst.stage error]
      exact apart_diverted reporting.toSound poised.apart stands.current stands.found known
  | stuck accepted failed =>
      obtain ⟨events, -, -, rfl⟩ := accepted.judged
      exact (poised.forwarded _ _ _).apart
  | unadvised accepted failed =>
      exact (accepted.reaches_sound contained poised (by rw [ending, failed])).2
  | unknown accepted advised absent =>
      exact (accepted.reaches_sound contained poised (by rw [ending, advised])).2
  | redirected accepted advised known found =>
      have reaches := accepted.reaches contained poised.toGrounded (by rw [ending, advised])
      obtain ⟨sound, apart⟩ :=
        accepted.reaches_sound contained poised (by rw [ending, advised])
      obtain ⟨values, runs⟩ := reaches.runs accepted.toRuns
      exact apart_diverted (sound.reporting _) apart runs.current found known
  | carried accepted advised unfinished =>
      exact (accepted.reaches_sound contained poised (by rw [ending, advised])).2
  | @ended number inst definition stage left staged values advanced reached events result accepted
      advised past quiet stops exits =>
      subst stops
      exact exits.apart contained (poised.forwarded number values events)

theorem Wordless.hears {operation : Operation} (wordless : Wordless host state operation) :
    ∃ place payload, state.Hears operation place payload := by
  obtain ⟨number, inst, definition, stage, place, payload, shown, answer, verdict, reached, failure,
    stands, hears, -⟩ := wordless
  exact ⟨place, payload, hears⟩

/-- After an operation the current instance is suspended as well if its output was rejected without
a message just now, or if it was so before and no workflow was started. -/
theorem take_apart_iff (contained : host.Contained) (sound : state.Sound) {operation : Operation}
    (controls : operation.controls = true) :
    ¬ (Trace.take (perform host) state operation).after.Apart ↔
      Wordless host state operation ∨ ¬ state.Apart ∧ ¬ state.letsIn operation = true := by
  have passage := perform_passage contained sound controls
  rw [after_take]
  by_cases heard : ∃ place payload, state.Hears operation place payload
  · obtain ⟨place, payload, hears⟩ := heard
    have apart := sound.apart_held place hears.held
    have poised := poised_finishing sound hears.held
    simp only [apart, not_true_eq_false, false_and, or_false]
    refine ⟨?_, not_apart_of_wordless contained sound⟩
    intro together
    apply Classical.byContradiction
    intro worded
    refine together ((course_of_hears contained sound hears).apart contained poised ?_)
    intro number inst definition stage left error failure reached stands judged failed
    obtain ⟨shown, answer, verdict, after, consulted, said, invalid, rfl⟩ :=
      verdict_of_judge judged failed
    exact worded ⟨number, inst, definition, stage, place, payload, shown, answer, verdict, after,
      failure, ⟨⟨stands.current, stands.found, stands.defined⟩, stands.there⟩, hears, consulted,
      said, invalid, writable_of_judge judged, failed⟩
  · have silent : ¬ Wordless host state operation := fun wordless => heard wordless.hears
    by_cases starts : state.letsIn operation = true
    · obtain ⟨source, force, invocation, rfl, admitted⟩ := State.admitted_of_letsIn starts
      obtain ⟨definition, known⟩ := known_of_admitted admitted
      have began := (sound.detached.begun rfl known).apart
      simp only [silent, starts, not_true_eq_false, and_false, or_false, iff_false,
        Classical.not_not]
      rcases passage.of_admitted admitted with
        ⟨reached, started, same⟩ | ⟨failure, same⟩
      · have apart : reached.Apart := apart_started started began
        rw [same]
        exact apart
      · rw [same]
        exact began
    · have still := passage.still starts fun place payload hears => heard ⟨place, payload, hears⟩
      simp only [silent, starts, Bool.false_eq_true, not_false_eq_true, and_true, false_or,
        State.Apart, still.current, still.suspended]

/-- An output was rejected without a message, and no workflow was started since. -/
def MuteSince (host : Host) (history : List (Taken Operation Failure State Answer)) : Prop :=
  Trace.Since (fun taken => Wordless host taken.before taken.command)
    (fun taken => taken.before.letsIn taken.command = true) history

theorem apart_final (contained : host.Contained) (sound : state.Sound)
    {history : List (Taken Operation Failure State Answer)}
    (apart : ¬ state.Apart ↔ MuteSince host history) {operations : List Operation}
    (controls : ∀ operation ∈ operations, operation.controls = true) :
    ¬ (Trace.final (perform host) state operations).Apart ↔
      MuteSince host (history ++ Trace.run (perform host) state operations) := by
  induction operations generalizing state history with
  | nil =>
      simp only [Trace.run, List.append_nil]
      exact apart
  | cons operation rest ih =>
      have control := controls operation List.mem_cons_self
      have step := take_apart_iff contained sound control
      rw [apart] at step
      have first : ¬ (Trace.take (perform host) state operation).after.Apart ↔
          MuteSince host (history ++ [Trace.take (perform host) state operation]) := by
        rw [MuteSince, Trace.since_concat]
        exact step
      have passage := take_passage contained sound control
      have further := ih (passage.sound contained sound) first fun later member =>
        controls later (List.mem_cons_of_mem _ member)
      rw [List.append_assoc] at further
      exact further

/-- In every reachable state nothing is suspended twice.  The current instance is suspended as well
exactly if its output was rejected without a message and no workflow was started since. -/
theorem apart_unless_wordless (contained : host.Contained) {start : State}
    (fresh : start.FreshlyBuilt) {operations : List Operation}
    (controls : ∀ operation ∈ operations, operation.controls = true) :
    let state := Trace.final (perform host) start operations
    state.suspended.Nodup ∧
      ((∃ number, state.current = some number ∧ some number ∈ state.suspended) ↔
        MuteSince host (Trace.run (perform host) start operations)) := by
  intro state
  have idle : start.Apart := by
    intro number current
    cases fresh.idle.1.symm.trans current
  have nothing : ¬ start.Apart ↔ MuteSince host [] :=
    ⟨fun together => absurd idle together, fun since => absurd since Trace.not_since_nil⟩
  refine ⟨(sound_final contained fresh.sound controls).nodup, ?_⟩
  rw [← List.nil_append (Trace.run (perform host) start operations),
    ← apart_final contained fresh.sound nothing controls]
  simp only [State.Apart, Classical.not_forall, Classical.not_not, exists_prop]
  exact Iff.rfl

end Engine

namespace Mute

/-- Everything is rejected, with a number in place of a message. -/
def programs : Programs :=
  { behaviour := fun _ _ => .reply (.tuple [.bool false, .int 5]) }

def host : Host := programs.host 1

theorem keepsToMapping (program : Nat) (occasion : Occasion) :
    (programs.behaviour program occasion).KeepsToMapping :=
  trivial

theorem contained : host.Contained :=
  Programs.contained_host keepsToMapping 1

def operations : List Operation :=
  [.register
      { name := "Trip", plan := "Go;Return",
        validators := [.custom 0 .validator "mute", .default] },
    .invoke (.text "Trip") false, .complete (.dict [])]

/-- The state in which the trip is where it was, and suspended as well. -/
def rejected : State := Trace.final (Engine.perform host) Detour.start operations

theorem rejected_twice : rejected.current = some 0 ∧ rejected.suspended = [some 0] := by
  decide +kernel

end Mute

namespace Engine

/-- The trip is suspended and still current, since its output was rejected without a message.  It is
suspended and nothing else once another trip was started. -/
theorem apart_unless_wordless_mute :
    let further := Mute.operations ++ [.invoke (.text "Trip") true]
    (∀ operation ∈ further, operation.controls = true) ∧
      MuteSince Mute.host (Trace.run (perform Mute.host) Detour.start Mute.operations) ∧
      (Trace.final (perform Mute.host) Detour.start further).suspended = [some 0] ∧
      ¬ MuteSince Mute.host (Trace.run (perform Mute.host) Detour.start further) := by
  intro further
  have controls : ∀ operation ∈ further, operation.controls = true := by decide
  have controlsBefore : ∀ operation ∈ Mute.operations, operation.controls = true := by decide
  obtain ⟨-, before⟩ := apart_unless_wordless Mute.contained Detour.built controlsBefore
  obtain ⟨-, after⟩ := apart_unless_wordless Mute.contained Detour.built controls
  have places : (Trace.final (perform Mute.host) Detour.start further).current = some 1 ∧
      (Trace.final (perform Mute.host) Detour.start further).suspended = [some 0] := by
    decide +kernel
  obtain ⟨current, aside⟩ := Mute.rejected_twice
  refine ⟨controls, before.mp ⟨0, current, ?_⟩, places.2, ?_⟩
  · exact aside ▸ List.mem_cons_self
  · rw [← after, places.1, places.2]
    rintro ⟨number, same, member⟩
    cases same
    cases List.mem_singleton.mp member

/-- A reachable state in which the current instance is suspended as well. -/
theorem current_suspended_mute :
    Mute.host.Contained ∧ Reachable Mute.host Mute.rejected ∧
      Mute.rejected.current = some 0 ∧ some 0 ∈ Mute.rejected.suspended := by
  obtain ⟨current, aside⟩ := Mute.rejected_twice
  refine ⟨Mute.contained, ⟨Detour.start, Mute.operations, Detour.built, by decide, rfl⟩, current,
    ?_⟩
  exact aside ▸ List.mem_cons_self

end Engine

end Workflow
