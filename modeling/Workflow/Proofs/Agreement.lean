import Workflow.Proofs.Routine
import Workflow.Proofs.Storing

/-!
# Engines that agree

Two hosts may have hooks that do the same wherever they are called, although they differ elsewhere.
If routine steps lead from states of a kind to such states only, and calls of hooks do so as well,
then engines with these hosts do the same from there on.  For one host this says what every run
keeps, whatever hooks do inside it.
-/

namespace Workflow

/-- Routine steps keep to states of a kind, and hooks that are called in these do the same for both
hosts and keep to them. -/
structure Host.Alike (host : Host) (kind : State → Prop) (other : Host) : Prop where
  keeps : ∀ {α : Type} {step : Engine α}, Engine.Routine step → Trace.Keeps kind step
  modules : other.modules = host.modules
  patience : other.patience = host.patience
  call : ∀ program role name stamp asked arguments shown, Trace.AgreeOn kind
    (Engine.callHook host (.custom program role name stamp) asked arguments shown)
    (Engine.callHook other (.custom program role name stamp) asked arguments shown)

/-- Hooks may be called anywhere if they do the same in all states of the kind. -/
theorem Host.alike_of_run {kind : State → Prop} {host other : Host}
    (keeps : ∀ {α : Type} {step : Engine α}, Engine.Routine step → Trace.Keeps kind step)
    (modules : other.modules = host.modules) (patience : other.patience = host.patience)
    (run : ∀ program occasion shown, Trace.AgreeOn kind (host.run program occasion shown)
      (other.run program occasion shown)) : host.Alike kind other where
  keeps := keeps
  modules := modules
  patience := patience
  call := by
    intro program role name stamp asked arguments shown
    rw [Engine.callHook_eq, Engine.callHook_eq]
    exact (keeps (Engine.routine_announce _ asked arguments)).bind fun _ => run _ _ shown

namespace Host.Alike

open Engine Trace

variable {α β : Type} {kind : State → Prop} {host other : Host} (alike : host.Alike kind other)
include alike

/-- What comes before a call of a hook can be left aside. -/
theorem andThen {step : Engine α} {next further : α → Engine β} (routine : Routine step)
    (rest : ∀ answer, AgreeOn kind (next answer) (further answer)) :
    AgreeOn kind (step >>= next) (step >>= further) :=
  (alike.keeps routine).bind rest

theorem keeps_withRegistry {step : Engine α} (keeps : Keeps kind step) (registry : Registry) :
    Keeps kind (withRegistry registry step) := by
  have replaced (registry : Registry) {state : State} (held : kind state) :
      kind { state with registry } :=
    (alike.keeps (.change (fun state => { state with registry }) fun _ =>
      .of_same rfl rfl rfl rfl) state held).2
  apply keeps_of
  intro state held
  have kept := (keeps { state with registry } (replaced registry held)).2
  simp only [outcomeOf, withRegistry] at kept ⊢
  cases reached : step { state with registry } with
  | ok answer after =>
      rw [reached] at kept
      exact replaced state.registry kept
  | error failure after =>
      rw [reached] at kept
      exact replaced state.registry kept

end Host.Alike

namespace Engine

open Trace

variable {kind : State → Prop} {host other : Host} (alike : host.Alike kind other)
include alike

theorem agree_callHook (hook : Hook) (asked : Option (Nat × Question)) (arguments : List Value)
    (shown : Shown) : AgreeOn kind (callHook host hook asked arguments shown)
      (callHook other hook asked arguments shown) := by
  have ready {hook : Hook} (same : ∀ before,
      AgreeOn kind (answerOf host before arguments shown hook)
        (answerOf other before arguments shown hook)) : AgreeOn kind
        (callHook host hook asked arguments shown) (callHook other hook asked arguments shown) := by
    rw [callHook_eq, callHook_eq]
    exact alike.andThen (routine_announce hook asked arguments) same
  cases hook with
  | alwaysValid => exact ready fun _ => keeps_pure _
  | identityAcceptor => exact ready fun _ => keeps_pure _
  | cancelDecision =>
      exact ready fun _ => alike.andThen (routine_decideCancel shown) fun _ => keeps_pure _
  | ready hook => exact ready fun _ => alike.andThen (routine_lift _) fun _ => keeps_pure _
  | custom program role name stamp => exact alike.call program role name stamp asked arguments shown

theorem agree_consult (hook : Hook) (inst : Nat) (question : Question) (shown : Shown) :
    AgreeOn kind (consult host hook inst question shown)
      (consult other hook inst question shown) :=
  alike.andThen (routine_entries shown) fun _ => agree_callHook alike hook _ _ shown

theorem agree_judge (number : Nat) (stage : Stage) (payload : Payload) :
    AgreeOn kind (judge host number stage payload)
      (judge other number stage payload) :=
  (agree_consult alike stage.validator number .validate (.output payload)).bind fun _ =>
    alike.andThen (routine_lift _) fun _ => alike.andThen (routine_lift _) fun _ => keeps_pure _

theorem agree_advise (number : Nat) (definition : Definition) (reached : Int) :
    AgreeOn kind (advise host number definition reached)
      (advise other number definition reached) := by
  simp only [advise]
  cases definition.redirector with
  | none => exact keeps_pure none
  | some redirector =>
      exact (agree_consult alike redirector number _ (.values number)).bind fun _ =>
        alike.keeps (routine_lift _)

theorem agree_exit (bound : Nat) :
    AgreeOn kind (exit host bound) (exit other bound) := by
  induction bound with
  | zero => exact keeps_throw Failure.tooDeep
  | succ bound ih =>
      rw [exit_succ, exit_succ, conclude_leave, conclude_leave]
      simp only [bind_assoc, pure_bind]
      refine alike.andThen routine_leave fun left =>
        (agree_consult alike _ _ _ _).bind fun answered => alike.andThen .look fun state => ?_
      split
      · exact alike.keeps routine_comeToRest
      · refine alike.andThen (routine_resume _) fun past => ?_
        split
        · exact ih
        · exact alike.keeps routine_startStage

theorem agree_proceed (number : Nat) (definition : Definition) (stageName : Option String)
    (target : Option (String × Invocation)) :
    AgreeOn kind (proceed host number definition stageName target)
      (proceed other number definition stageName target) := by
  cases target with
  | none =>
      refine alike.andThen (routine_instanceAt number) fun inst => ?_
      split
      · rw [alike.patience]
        exact alike.andThen .look fun state => agree_exit alike _
      · exact keeps_pure ()
  | some target => exact alike.keeps (routine_redirect _ _ _ _)

theorem agree_stageFinished (payload : Payload) :
    AgreeOn kind (stageFinished host payload) (stageFinished other payload) := by
  rw [stageFinished_eq, stageFinished_eq]
  refine alike.andThen routine_receive fun received =>
    (agree_judge alike _ _ payload).bind fun judged => ?_
  obtain ⟨number, definition, reached, stage⟩ := received
  obtain ⟨left, staged⟩ := judged
  cases staged with
  | error error => exact alike.andThen (routine_reject _ _ _) fun _ => keeps_pure left
  | ok staged =>
      simp only [accept_advance, bind_assoc]
      exact alike.andThen (routine_advance _ _ _ _) fun reached => (agree_advise alike _ _ _).bind
        fun target => (agree_proceed alike _ _ _ target).bind fun _ => keeps_pure left

theorem agree_deliver (listeners : List Watcher) (payload : Payload) :
    AgreeOn kind
      (Handle.deliver (fun _ payload => stageFinished host payload) listeners payload)
      (Handle.deliver (fun _ payload => stageFinished other payload) listeners payload) := by
  induction listeners generalizing payload with
  | nil => exact keeps_pure payload
  | cons listener rest ih => exact (agree_stageFinished alike payload).bind fun left => ih left

theorem agree_finishHandle (number : Nat) (output : Value) :
    AgreeOn kind (finishHandle host number output)
      (finishHandle other number output) := by
  rw [finishHandle_close, finishHandle_close]
  exact alike.andThen (routine_close number output) fun closed =>
    (agree_deliver alike closed.1 closed.2).bind fun _ => keeps_pure ()

theorem agree_callDirectly (hook : Hook) (arguments : List Value) :
    AgreeOn kind (callDirectly host hook arguments)
      (callDirectly other hook arguments) := by
  rw [callDirectly_presented, callDirectly_presented]
  exact alike.andThen (routine_lift _) fun shown =>
    (agree_callHook alike hook none arguments shown).bind fun _ => keeps_pure _

/-- Whatever operation is performed, hooks are called only in states of the kind, and it ends in
one, however it ends. -/
theorem agree_perform (operation : Operation) :
    AgreeOn kind (perform host operation) (perform other operation) := by
  have modules := alike.modules.symm
  cases operation with
  | complete output =>
      simp only [perform, complete, bind_assoc]
      refine alike.andThen .look fun state => ?_
      cases state.dispatcher.current with
      | none => exact keeps_throw Failure.nothingToComplete
      | some number => exact (agree_finishHandle alike number output).bind fun _ => keeps_pure _
  | finish position output =>
      simp only [perform, finishAt, bind_assoc]
      refine alike.andThen .look fun state => ?_
      cases Position.offset? state.dispatcher.handles.length position with
      | none => exact keeps_throw Failure.outOfRange
      | some number => exact (agree_finishHandle alike number output).bind fun _ => keeps_pure _
  | call name role position arguments =>
      exact alike.andThen .look fun _ => alike.andThen (routine_lift _) fun definition =>
        alike.andThen (routine_lift _) fun hook =>
          (agree_callDirectly alike hook arguments).bind fun _ => keeps_pure _
  | register request =>
      simp only [perform, registerRequested_congr modules]
      exact alike.andThen (routine_registerRequested other request) fun _ => keeps_pure _
  | load document path fresh =>
      simp only [perform, loadAll_congr modules]
      have loads := alike.keeps (routine_loadAll other document path)
      exact (alike.keeps_withRegistry loads []).ite loads
  | invoke source force =>
      exact alike.andThen (routine_invokeSource source force) fun _ =>
        alike.andThen (routine_note _) fun _ =>
          alike.andThen (routine_instanceAt _) fun _ => keeps_pure _
  | «recall» position => exact alike.andThen (routine_returnedAt position) fun _ => keeps_pure _
  | deactivate => exact alike.andThen routine_deactivate fun _ => keeps_pure _
  | definition name =>
      exact alike.andThen .look fun _ => alike.andThen (routine_lift _) fun _ => keeps_pure _
  | stageName name number =>
      exact alike.andThen .look fun _ => alike.andThen (routine_lift _) fun _ => keeps_pure _
  | rename name =>
      exact alike.andThen .look fun _ => alike.andThen (routine_lift _) fun _ => keeps_throw _
  | loadMissing => exact keeps_throw Failure.missingFile
  | _ => exact alike.andThen .look fun _ => keeps_pure _

end Engine

/-! ## Hooks with programs -/

section Programs

open Engine Trace

variable {α : Type} {kind : State → Prop}

theorem Engine.keeps_outcome {step : Engine α} (keeps : Keeps kind step) :
    Keeps kind (outcome step) :=
  keeps_of fun state held => (keeps state held).2

variable (keeps : ∀ {α : Type} {step : Engine α}, Routine step → Keeps kind step)
include keeps

/-- What operations keep is kept by all that a behaviour does. -/
theorem Engine.keeps_follow {performing : Operation → Engine Answer}
    (performs : ∀ operation, Keeps kind (performing operation)) (behaviour : Behaviour)
    (shown : Shown) : Keeps kind (follow performing behaviour shown) := by
  induction behaviour generalizing shown with
  | reply answer => exact keeps_pure _
  | fail failure => exact keeps_throw failure
  | write key value next ih =>
      exact (keeps (routine_put key value shown)).bind fun written => ih written
  | remove key next ih => exact (keeps (routine_remove key shown)).bind fun left => ih left
  | look next ih => exact (keeps (routine_entries shown)).bind fun seen => ih seen shown
  | operate operation next ih =>
      exact (keeps_outcome (performs operation)).bind fun outcome => ih outcome shown
  | tell event next ih => exact (keeps (routine_note event)).bind fun _ => ih shown

/-- What routine steps keep is kept by hooks with programs, however deeply they call back. -/
theorem Programs.keeps_run (programs : Programs) (depth program : Nat) (occasion : Occasion)
    (shown : Shown) : Keeps kind ((programs.host depth).run program occasion shown) := by
  induction depth generalizing program occasion shown with
  | zero => exact keeps_throw _
  | succ depth ih =>
      have alike : (programs.host depth).Alike kind (programs.host depth) :=
        Host.alike_of_run keeps rfl rfl ih
      exact keeps_follow keeps (agree_perform alike) _ shown

/-- What routine steps keep is kept in every run, whatever hooks with programs do inside it. -/
theorem Programs.keeps_final (programs : Programs) (depth : Nat) {state : State}
    (held : kind state) (operations : List Operation) :
    kind (final (Engine.perform (programs.host depth)) state operations) :=
  Keeps.final (agree_perform (Host.alike_of_run keeps rfl rfl (programs.keeps_run keeps depth)))
    held operations

end Programs

end Workflow
