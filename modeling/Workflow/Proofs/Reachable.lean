import Workflow.Proofs.Passage

/-!
# Reachable states

An engine that was just built has done nothing yet.  The states that it gets to by operations that
control it, whatever becomes of each of them, are sound.
-/

namespace Workflow

/-- The state of an engine that was just built over a registry, with a dispatcher that has shown
nothing yet. -/
def State.FreshlyBuilt (state : State) : Prop :=
  ∃ registry settings content backend stamp,
    Engine.initial settings content { registry, stamp, dispatcher := { backend } } = .ok () state

/-- A state that an engine gets to by operations that control it. -/
def Engine.Reachable (host : Host) (state : State) : Prop :=
  ∃ start operations, State.FreshlyBuilt start ∧
    (∀ operation ∈ operations, operation.controls = true) ∧
      state = Trace.final (Engine.perform host) start operations

namespace State.FreshlyBuilt

variable {state : State} (fresh : state.FreshlyBuilt)
include fresh

/-- Building an engine does nothing but register the built-in workflow. -/
theorem registered : ∃ registry settings backend stamp definition events, Event.Quiet events ∧
    state = { settings, registry := Entries.put registry settings.cancelWorkflow definition, stamp,
              dispatcher := { backend }, journal := events } := by
  obtain ⟨registry, settings, content, backend, stamp, built⟩ := fresh
  simp only [Engine.initial, Engine.bind_apply, Engine.modify_apply] at built
  obtain ⟨altered, later, events, quiet, kept, registered⟩ := Engine.registers_register
    { name := settings.cancelWorkflow
      plan := (Text.given? content).getD settings.cancelContent
      acceptor := some .cancelDecision }
    { registry, stamp, dispatcher := { backend }, settings }
  simp only [Engine.ending] at kept registered
  cases result : Engine.register _ _ with
  | error failure reached =>
      rw [result] at built
      cases built
  | ok answer reached =>
      rw [result] at built kept registered
      cases built
      rcases kept with ⟨failed, -⟩ | ⟨definition, rfl⟩
      · exact absurd rfl failed
      · refine ⟨registry, settings, backend, later, definition, events, quiet, ?_⟩
        simpa [State.registering] using registered

theorem idle : state.current = none ∧ state.suspended = [] ∧ state.held = none ∧
    state.dispatcher.current = none := by
  obtain ⟨registry, settings, backend, stamp, definition, events, -, rfl⟩ := fresh.registered
  exact ⟨rfl, rfl, rfl, rfl⟩

theorem departures : state.departures = [] := by
  obtain ⟨registry, settings, backend, stamp, definition, events, quiet, rfl⟩ := fresh.registered
  exact quiet

theorem sound : state.Sound := by
  obtain ⟨registry, settings, backend, stamp, definition, events, -, rfl⟩ := fresh.registered
  exact {
    current_lt := nofun
    suspended_lt := nofun
    known := nofun
    counted := nofun
    cancel_known := ⟨definition, by simp [Registry.get]⟩
    remembers := rfl
    wired := ⟨nofun, nofun, nofun⟩
    runs_held := nofun
    apart_held := nofun
    nodup := List.nodup_nil }

end State.FreshlyBuilt

theorem eq_ok_of_toOption {ε α : Type} {result : Except ε α} {answer : α}
    (found : result.toOption = some answer) : result = .ok answer := by
  cases result with
  | ok other =>
      cases found
      rfl
  | error failure => cases found

namespace Engine

variable {host : Host} {state : State}

/-- What a run takes down about a command is how the command ended. -/
theorem after_take (operation : Operation) :
    (Trace.take (perform host) state operation).after =
      (ending (perform host operation) state).2 := by
  simp only [Trace.take, Trace.outcomeOf, ending]
  cases perform host operation state <;> rfl

theorem outcome_take (operation : Operation) :
    (ending (perform host operation) state).1 = none ↔
      (Trace.take (perform host) state operation).outcome.isOk = true := by
  simp only [Trace.take, Trace.outcomeOf, ending]
  cases perform host operation state <;> simp [Except.isOk, Except.toBool]

theorem failure_take {operation : Operation} {failure : Failure} :
    (Trace.take (perform host) state operation).outcome = .error failure ↔
      (ending (perform host operation) state).1 = some failure := by
  simp only [Trace.take, Trace.outcomeOf, ending]
  cases perform host operation state <;> simp

theorem take_passage (contained : host.Contained) (sound : state.Sound) {operation : Operation}
    (controls : operation.controls = true) :
    Passage host state operation ((ending (perform host operation) state).1,
      (Trace.take (perform host) state operation).after) := by
  rw [after_take]
  exact perform_passage contained sound controls

theorem sound_final (contained : host.Contained) (sound : state.Sound)
    {operations : List Operation}
    (controls : ∀ operation ∈ operations, operation.controls = true) :
    (Trace.final (perform host) state operations).Sound := by
  induction operations generalizing state with
  | nil => exact sound
  | cons operation rest ih =>
      have passage := take_passage contained sound (controls operation List.mem_cons_self)
      apply ih (passage.sound contained sound)
      intro later member
      exact controls later (List.mem_cons_of_mem _ member)

/-- What no operation of a run ends, whatever becomes of it, holds after the run. -/
theorem invariant_final (contained : host.Contained) (sound : state.Sound)
    {operations : List Operation}
    (controls : ∀ operation ∈ operations, operation.controls = true) (kept : State → Prop)
    (keeps : ∀ operation ∈ operations, ∀ before result, before.Sound →
      Passage host before operation result → kept before → kept result.2)
    (start : kept state) : kept (Trace.final (perform host) state operations) := by
  induction operations generalizing state with
  | nil => exact start
  | cons operation rest ih =>
      have passage := take_passage contained sound (controls operation List.mem_cons_self)
      apply ih (passage.sound contained sound)
      · intro later member
        exact controls later (List.mem_cons_of_mem _ member)
      · intro later member
        exact keeps later (List.mem_cons_of_mem _ member)
      · exact keeps operation List.mem_cons_self _ _ sound passage start

/-- Every reachable state is sound. -/
theorem Reachable.sound (contained : host.Contained) (reachable : Reachable host state) :
    state.Sound := by
  obtain ⟨start, operations, fresh, controls, rfl⟩ := reachable
  exact sound_final contained fresh.sound controls

end Engine

/-! ## A detour

A trip of two stages leads to a visit after the first one.  The visit contributes something to the
trip, which goes on with its second stage then. -/

namespace Detour

def programs : Programs :=
  { behaviour := fun program _ =>
      if program = 0 then .reply (.text "Visit") else .reply (.dict [(.text "seen", .bool true)]) }

def host : Host := programs.host 1

theorem keepsToMapping (program : Nat) (occasion : Occasion) :
    (programs.behaviour program occasion).KeepsToMapping := by
  simp only [programs]
  split <;> trivial

theorem contained : host.Contained :=
  Programs.contained_host keepsToMapping 1

def start : State := (Engine.ending (Engine.initial {} none) {}).2

theorem built : start.FreshlyBuilt := ⟨[], {}, none, .inMemory, 0, rfl⟩

def operations : List Operation :=
  [.register
      { name := "Trip", plan := "Go;Return", redirector := .custom 0 .redirector "detour" },
    .register { name := "Visit", plan := "Look", acceptor := .custom 1 .acceptor "report" },
    .invoke (.text "Trip") false, .complete .null]

/-- The state in which the trip is suspended for the visit. -/
def visiting : State := Trace.final (Engine.perform host) start operations

theorem reachable_visiting : Engine.Reachable host visiting :=
  ⟨start, operations, built, by decide, rfl⟩

end Detour

end Workflow
