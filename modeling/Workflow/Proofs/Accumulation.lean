import Workflow.Proofs.Agreement
import Workflow.Proofs.Reachable

/-!
# Accumulated values

The engine writes to the values of an instance in two places, when it takes in an output and when a
workflow contributes to the one that it interrupted, and hooks write to those that they are shown.
All of them go through commands on maps, so whatever hooks do and wherever an operation stops, every
instance has a map of accumulated values.
-/

namespace Workflow

theorem ValueCommand.keeps_edit (command : ValueCommand) :
    Trace.Keeps ValueMap.WF command.edit :=
  (keeps_run command).bind fun _ => Trace.keeps_pure ()

/-- The values of every instance are well formed. -/
def State.Accumulates (state : State) : Prop :=
  ∀ inst ∈ state.instances, inst.values.WF

namespace State

variable {state after : State}

theorem Accumulates.of_same (accumulates : state.Accumulates)
    (same : after.instances = state.instances) : after.Accumulates := by
  intro inst member
  rw [same] at member
  exact accumulates inst member

theorem Accumulates.begun (accumulates : state.Accumulates) (invocation : Invocation) :
    Accumulates { state with
      instances := state.instances ++ [.ofInvocation invocation] } := by
  intro inst member
  rcases List.mem_append.mp member with before | new
  · exact accumulates inst before
  · rw [List.mem_singleton.mp new]
    exact ValueMap.wf_empty

theorem Accumulates.changing (accumulates : state.Accumulates) (number : Nat)
    {change : Instance → Instance}
    (keeps : ∀ inst, state.instances[number]? = some inst → (change inst).values.WF) :
    (state.changing number change).Accumulates := by
  intro inst member
  obtain ⟨place, found⟩ := List.mem_iff_getElem?.mp member
  obtain ⟨before, there, rfl⟩ := found_changing found
  split
  · next same =>
    subst same
    exact keeps before there
  · exact accumulates before (List.mem_of_getElem? there)

end State

namespace Engine

variable {α β : Type}

/-- However a guarded step ends, every instance has accumulated values. -/
theorem Guarded.keeps {step : Engine α} (guarded : Guarded step) :
    Trace.Keeps State.Accumulates step := by
  induction guarded with
  | answer answer => exact Trace.keeps_pure answer
  | fail failure => exact Trace.keeps_throw failure
  | look => exact Trace.keeps_of fun _ accumulates => accumulates
  | change change same =>
      exact Trace.keeps_of fun state accumulates => accumulates.of_same (same state)
  | begin invocation =>
      apply Trace.keeps_of
      intro state accumulates
      rw [Trace.outcomeOf, addInstance_apply]
      exact accumulates.begun invocation
  | mark number change same =>
      apply Trace.keeps_of
      intro state accumulates
      apply accumulates.changing number
      intro inst found
      rw [same]
      exact accumulates inst (List.mem_of_getElem? found)
  | edit number command =>
      apply Trace.keeps_of
      intro state accumulates
      cases found : state.instances[number]? with
      | none =>
          simp only [Trace.outcomeOf, editValues, instanceAt, bind_apply, get_apply, found,
            throw_apply]
          exact accumulates
      | some inst =>
          have before := accumulates inst (List.mem_of_getElem? found)
          have kept := (command.keeps_edit inst.values before).2
          rw [Trace.outcomeOf, editValues_apply found]
          simp only [Trace.outcomeOf] at kept
          cases edited : command.edit inst.values with
          | ok answer values =>
              rw [edited] at kept
              exact accumulates.changing number fun _ _ => kept
          | error fault values =>
              rw [edited] at kept
              exact accumulates.changing number fun _ _ => kept
  | bind guarded further first rest => exact first.bind rest

end Engine

/-! ## What hooks do -/

namespace Engine

variable {α β : Type}

/-- What a hook may do: anything that is guarded, operations of an engine with such hooks, one thing
after the other, and to go on where something failed. -/
inductive Conduct : {α : Type} → Engine α → Prop where
  | guarded {α : Type} {step : Engine α} (guarded : Guarded step) : Conduct step
  | operate {host : Host}
      (runs : ∀ program occasion shown, Conduct (host.run program occasion shown))
      (operation : Operation) : Conduct (perform host operation)
  | outcome {α : Type} {step : Engine α} (conduct : Conduct step) : Conduct (outcome step)
  | bind {α β : Type} {step : Engine α} {next : α → Engine β} (conduct : Conduct step)
      (further : ∀ answer, Conduct (next answer)) : Conduct (step >>= next)

theorem Conduct.keeps {step : Engine α} (conduct : Conduct step) :
    Trace.Keeps State.Accumulates step := by
  induction conduct with
  | guarded guarded => exact guarded.keeps
  | operate runs operation keeps =>
      exact agree_perform
        (Host.alike_of_run (fun routine => routine.guarded.keeps) rfl rfl keeps) operation
  | outcome conduct keeps =>
      apply Trace.keeps_of
      intro state accumulates
      exact (keeps state accumulates).2
  | bind conduct further first rest => exact first.bind rest

end Engine

/-- The hooks of the host write to the values of instances by commands only. -/
def Host.Commanding (host : Host) : Prop :=
  ∀ program occasion shown, Engine.Conduct (host.run program occasion shown)

/-- Two hosts whose hooks do the same where every instance has accumulated values. -/
structure Host.SameWhereAccumulated (host other : Host) : Prop where
  modules : other.modules = host.modules
  patience : other.patience = host.patience
  run : ∀ program occasion shown state, state.Accumulates →
    other.run program occasion shown state = host.run program occasion shown state

namespace Engine

/-- Whatever a behaviour does, it is what a hook may do. -/
theorem conduct_follow {performing : Operation → Engine Answer}
    (performs : ∀ operation, Conduct (performing operation)) (behaviour : Behaviour)
    (shown : Shown) : Conduct (follow performing behaviour shown) := by
  induction behaviour generalizing shown with
  | reply answer => exact .guarded (.answer _)
  | fail failure => exact .guarded (.fail failure)
  | write key value next ih =>
      exact .bind (.guarded (routine_put key value shown).guarded) fun written => ih written
  | remove key next ih =>
      exact .bind (.guarded (routine_remove key shown).guarded) fun left => ih left
  | look next ih => exact .bind (.guarded (routine_entries shown).guarded) fun seen => ih seen shown
  | operate operation next ih =>
      exact .bind (.outcome (performs operation)) fun outcome => ih outcome shown
  | tell event next ih => exact .bind (.guarded (guarded_note event)) fun _ => ih shown

end Engine

theorem Programs.commanding_host (programs : Programs) (depth : Nat) :
    (programs.host depth).Commanding := by
  induction depth with
  | zero => exact fun _ _ _ => .guarded (.fail _)
  | succ depth ih =>
      intro program occasion shown
      exact Engine.conduct_follow (Engine.Conduct.operate ih) _ shown

theorem State.FreshlyBuilt.accumulates {state : State} (fresh : state.FreshlyBuilt) :
    state.Accumulates := by
  obtain ⟨registry, settings, backend, stamp, definition, events, -, rfl⟩ := fresh.registered
  exact fun _ member => absurd member List.not_mem_nil

theorem Host.SameWhereAccumulated.alike {host other : Host} (same : host.SameWhereAccumulated other)
    (commanding : host.Commanding) : host.Alike State.Accumulates other := by
  apply Host.alike_of_run (fun routine => routine.guarded.keeps) same.modules same.patience
  intro program occasion shown state accumulates
  exact ⟨same.run program occasion shown state accumulates,
    ((commanding program occasion shown).keeps state accumulates).2⟩

/-- A map of values is a dictionary with text keys that differ and with values of seven kinds,
whatever was done to it, and so is the map of every instance in every run, whatever hooks with
programs do and wherever an operation stops.  No hook ever sees anything else: what hooks would do
where some instance has other values makes no difference to any run. -/
theorem values_accumulated {map : ValueMap} (reachable : map.Reachable) {host : Host}
    (commanding : host.Commanding) {start : State} (fresh : start.FreshlyBuilt)
    (operations : List Operation) :
    map.Accumulated ∧
      (∀ (programs : Programs) (depth : Nat), (programs.host depth).Commanding) ∧
      (∀ inst ∈ (Trace.final (Engine.perform host) start operations).instances,
        inst.values.Accumulated) ∧
      ∀ other, host.SameWhereAccumulated other →
        Trace.run (Engine.perform other) start operations =
          Trace.run (Engine.perform host) start operations := by
  have itself : host.Alike State.Accumulates host := Host.alike_of_run
    (fun routine => routine.guarded.keeps) rfl rfl fun program occasion shown =>
      (commanding program occasion shown).keeps
  refine ⟨reachable.wf.accumulated, Programs.commanding_host, ?_, ?_⟩
  · intro inst member
    have accumulates := Trace.Keeps.final (Engine.agree_perform itself) fresh.accumulates operations
    exact (accumulates inst member).accumulated
  · intro other same
    exact Trace.AgreeOn.run (Engine.agree_perform (same.alike commanding)) fresh.accumulates
      operations

/-! ## Clutter

The redirector of a trip writes to the live values of the trip.  The visit to which it leads is
completed with an output that is no map of values, and then contributes entries to the trip of which
the second is refused. -/

namespace Clutter

def programs : Programs :=
  { behaviour := fun program _ =>
      if program = 0 then
        .write (.text "note") (.list [.tuple [], .bytes [0]]) <|
          .write (.text "seat") (.int 4) (.reply (.text "Visit"))
      else
        .reply (.dict
          [(.text "seen", .bool true), (.text "size", .tuple [.int 1]), (.text "late", .null)]) }

def operations : List Operation :=
  [.register
      { name := "Trip", plan := "Go;Return", redirector := .custom 0 .redirector "litter" },
    .register { name := "Visit", plan := "Look", acceptor := .custom 1 .acceptor "report" },
    .invoke (.text "Trip") false,
    .complete (.list [.tuple [.text "seat", .int 3], .tuple [.text "seat", .text "aisle"]]),
    .complete (.dict [(.text "view", .null), (.int 7, .null)]), .complete .null, .complete .null]

/-- Two pairs are stored before an item that is none, and the first of them is taken out again. -/
def map : ValueMap :=
  Trace.final ValueCommand.run .empty
    [.update (.list [.tuple [.text "a", .null], .text "bc", .int 3, .text "de"]), .popFirst]

theorem reachable : map.Reachable :=
  .commanded (.commanded .empty _) _

theorem values_accumulated_clutter :
    Entries.keys map.entries = ["b"] ∧
      (Trace.final (Engine.perform (programs.host 1)) Detour.start operations).instances.map
        (fun inst => (inst.name, Entries.keys inst.values.entries)) =
        [("Trip", ["seat", "note", "seen"]), ("Visit", []), ("__CancelRequest", [])] ∧
      map.Accumulated ∧
      (∀ (programs : Programs) (depth : Nat), (programs.host depth).Commanding) ∧
      (∀ inst ∈ (Trace.final (Engine.perform (programs.host 1)) Detour.start
        operations).instances, inst.values.Accumulated) ∧
      ∀ other, (programs.host 1).SameWhereAccumulated other →
        Trace.run (Engine.perform other) Detour.start operations =
          Trace.run (Engine.perform (programs.host 1)) Detour.start operations :=
  ⟨by decide +kernel, by decide +kernel,
    values_accumulated reachable (programs.commanding_host 1) Detour.built operations⟩

end Clutter

end Workflow
