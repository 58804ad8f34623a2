import Workflow.Handle.Script
import Workflow.Proofs.Storing
import Mathlib.Data.List.TakeWhile

/-!
# Notifications of a handle

A handle is finished before anybody is notified, and who is notified was settled when it was
finished.  So listeners may subscribe, unsubscribe and try to finish the handle again as they like:
each subscription of that moment is told once, in its turn, until a listener fails, and nobody is
ever told anything afterwards.
-/

namespace Workflow

/-- A dictionary is an output as it is. -/
theorem Payload.ofOutput_dict (entries : Entries Value Value) :
    Payload.ofOutput (.dict entries) = .ok entries := by
  cases entries <;> rfl

/-- The listeners that were notified, the earliest first. -/
def HandleState.told (state : HandleState) : List String :=
  (state.received.map (·.1)).reverse

/-- The handle is finished, and no more than this was received. -/
def HandleState.Settled (received : List (String × Payload)) (state : HandleState) : Prop :=
  state.handle.finished = true ∧ state.received = received

/-- The handle is marked as finished. -/
def HandleState.closed (state : HandleState) : HandleState :=
  { state with handle := { state.handle with finished := true } }

namespace HandleStep

/-- The listener that a step subscribes. -/
def subscriber? : HandleStep → Option String
  | .subscribe listener => some listener
  | _ => none

/-- The step finishes the handle. -/
def isFinish : HandleStep → Bool
  | .finish _ => true
  | _ => false

/-- The steps before the first that finishes the handle. -/
def beforeFinish (actions : List HandleStep) : List HandleStep :=
  actions.takeWhile fun action => !action.isFinish

theorem isFinish_of_mem_beforeFinish {action : HandleStep} {actions : List HandleStep}
    (member : action ∈ beforeFinish actions) : action.isFinish = false := by
  simpa using List.mem_takeWhile_imp member

/-- After the steps before the first that finishes the handle, there is such a step or there are no
steps any more. -/
theorem beforeFinish_append (actions : List HandleStep) :
    beforeFinish actions = actions ∨
      ∃ output rest, actions = beforeFinish actions ++ .finish output :: rest := by
  have whole : actions = beforeFinish actions ++ actions.dropWhile fun action => !action.isFinish :=
    List.takeWhile_append_dropWhile.symm
  have finishes := List.head?_dropWhile_not (fun action => !action.isFinish) actions
  cases following : actions.dropWhile fun action => !action.isFinish with
  | nil =>
      rw [following, List.append_nil] at whole
      exact .inl whole.symm
  | cons action rest =>
      simp only [following, List.head?_cons, Bool.not_eq_false'] at finishes
      cases action with
      | finish output => exact .inr ⟨output, rest, following ▸ whole⟩
      | subscribe listener => cases finishes
      | unsubscribe listener => cases finishes
      | raise message => cases finishes
      | write => cases finishes

end HandleStep

namespace HandleProgram

variable {α β : Type}

/-- The outcome of a program as a value, with which it goes on also where something failed. -/
def attempt (program : HandleProgram α) : HandleProgram (Except Failure α) := fun state =>
  let (outcome, reached) := Trace.outcomeOf program state
  .ok outcome reached

/-- What a listener may do to the handle that notifies it: look at it, subscribe and unsubscribe
anybody, try to finish it, one thing after the other, and fail or go on where something failed. -/
inductive Reaction : {α : Type} → HandleProgram α → Prop where
  | answer {α : Type} (answer : α) : Reaction (pure answer)
  | fail {α : Type} (failure : Failure) : Reaction (throw failure : HandleProgram α)
  | look : Reaction (get : HandleProgram HandleState)
  | subscribe (listener : String) : Reaction (modifyHandle fun handle => handle.subscribe listener)
  | unsubscribe (listener : String) :
      Reaction (modifyHandle fun handle => handle.unsubscribe listener)
  | finish (notify : String → Payload → HandleProgram Payload) (output : Value) :
      Reaction (finish notify output)
  | attempt {α : Type} {program : HandleProgram α} (reaction : Reaction program) :
      Reaction (attempt program)
  | bind {α β : Type} {program : HandleProgram α} {next : α → HandleProgram β}
      (reaction : Reaction program) (further : ∀ answer, Reaction (next answer)) :
      Reaction (program >>= next)

/-- Listeners are notified in this way: it is taken down who is told what, and then the listener
reacts. -/
def Notifies (notify : String → Payload → HandleProgram Payload) : Prop :=
  ∀ listener payload, ∃ reaction : HandleProgram Payload, Reaction reaction ∧
    notify listener payload = (do
      modify fun state => { state with received := (listener, payload) :: state.received }
      reaction)

/-! ## Listeners with scripts -/

theorem reaction_lift (answer : Except ValueFault α) : Reaction (lift answer) := by
  cases answer with
  | ok answer => exact .answer answer
  | error fault => exact .fail _

theorem reaction_step (notify : String → Payload → HandleProgram Payload) (action : HandleStep) :
    Reaction (step notify action) := by
  cases action with
  | subscribe listener => exact .bind (.subscribe listener) fun _ => .answer none
  | unsubscribe listener => exact .bind (.unsubscribe listener) fun _ => .answer none
  | finish output => exact .bind (.finish notify output) fun _ => .answer none
  | raise message => exact .fail _
  | write => exact .bind .look fun _ => .answer _

theorem reaction_steps (notify : String → Payload → HandleProgram Payload)
    (actions : List HandleStep) : Reaction (steps notify actions) := by
  induction actions with
  | nil => exact .answer ()
  | cons action rest ih => exact .bind (reaction_step notify action) fun _ => ih

/-- Listeners that take the steps of a script are notified as listeners are. -/
theorem notifies_notify (listeners : Entries String (List HandleStep)) (depth : Nat) :
    Notifies (notify listeners (depth + 1)) := by
  intro listener payload
  refine ⟨_, ?_, rfl⟩
  exact .bind (reaction_steps _ _) fun _ => reaction_lift _

/-! ## A finished handle -/

/-- A handle that is finished cannot be finished again, and nobody hears of the attempt. -/
theorem finish_of_finished (notify : String → Payload → HandleProgram Payload) (output : Value)
    {state : HandleState} (finished : state.handle.finished = true) :
    finish notify output state = .error (.alreadyFinished state.handle.stage) state := by
  have looked : (get : HandleProgram HandleState) state = .ok state state := rfl
  have refused := (Handle.finish?_eq_none_iff state.handle).mpr finished
  simp only [finish, bind, EStateM.bind, looked, refused]
  rfl

/-- Whatever a listener does to a finished handle, the handle stays finished and nobody is told. -/
theorem Reaction.keeps {program : HandleProgram α} (reaction : Reaction program)
    (received : List (String × Payload)) :
    Trace.Keeps (HandleState.Settled received) program := by
  induction reaction with
  | answer answer => exact Trace.keeps_pure answer
  | fail failure => exact Trace.keeps_throw failure
  | look => exact Trace.keeps_of fun _ settled => settled
  | subscribe listener => exact Trace.keeps_of fun _ settled => settled
  | unsubscribe listener => exact Trace.keeps_of fun _ settled => settled
  | finish notify output =>
      apply Trace.keeps_of
      intro state settled
      rw [Trace.outcomeOf, finish_of_finished notify output settled.1]
      exact settled
  | attempt reaction ih =>
      apply Trace.keeps_of
      intro state settled
      exact (ih state settled).2
  | bind reaction further first rest => exact first.bind rest

section Delivery

variable {notify : String → Payload → HandleProgram Payload}

/-- Notifying a listener of a finished handle tells this listener and nobody else, whether or not it
fails. -/
theorem settled_notify (notifies : Notifies notify) {state : HandleState}
    (finished : state.handle.finished = true) (listener : String) (payload : Payload) :
    (Trace.outcomeOf (notify listener payload) state).2.Settled
      ((listener, payload) :: state.received) := by
  obtain ⟨reaction, reacts, same⟩ := notifies listener payload
  have settled : HandleState.Settled ((listener, payload) :: state.received)
      { state with received := (listener, payload) :: state.received } := ⟨finished, rfl⟩
  rw [same]
  exact (reacts.keeps _ _ settled).2

theorem told_of_settled {state after : HandleState} {listener : String} {payload : Payload}
    (settled : after.Settled ((listener, payload) :: state.received)) :
    after.told = state.told ++ [listener] := by
  rw [HandleState.told, settled.2, List.map_cons, List.reverse_cons, HandleState.told]

/-- How a delivery to listeners goes, and who is told: all of them, or one fails after all before it
have returned, and is the last who is told. -/
inductive Delivery (notify : String → Payload → HandleProgram Payload) (state : HandleState)
    (listeners : List String) (payload : Payload) :
    List String → Except Failure Unit × HandleState → Prop where
  | completed {left : Payload} {after : HandleState}
      (returned : Handle.deliver notify listeners payload state = .ok left after) :
      Delivery notify state listeners payload listeners (.ok (), after)
  | stopped {earlier rest : List String} {last : String} {left : Payload}
      {middle after : HandleState} {failure : Failure}
      (present : listeners = earlier ++ last :: rest)
      (returned : Handle.deliver notify earlier payload state = .ok left middle)
      (failed : notify last left middle = .error failure after) :
      Delivery notify state listeners payload (earlier ++ [last]) (.error failure, after)

theorem deliver_cons {state : HandleState} (listener : String) (rest : List String)
    (payload : Payload) : Handle.deliver notify (listener :: rest) payload state =
      match notify listener payload state with
      | .ok left middle => Handle.deliver notify rest left middle
      | .error failure after => .error failure after := by
  simp only [Handle.deliver, bind, EStateM.bind]
  cases notify listener payload state <;> rfl

/-- A listener that returns comes before those to whom the delivery goes on. -/
theorem Delivery.cons {state middle : HandleState} {listener : String} {rest told : List String}
    {payload left : Payload} {result : Except Failure Unit × HandleState}
    (returns : notify listener payload state = .ok left middle)
    (delivery : Delivery notify middle rest left told result) :
    Delivery notify state (listener :: rest) payload (listener :: told) result := by
  have goes (others : List String) : Handle.deliver notify (listener :: others) payload state =
      Handle.deliver notify others left middle := by
    rw [deliver_cons, returns]
  cases delivery with
  | completed returned => exact .completed ((goes rest).trans returned)
  | @stopped earlier others last left middle after failure present returned failed =>
      have before : listener :: rest = (listener :: earlier) ++ last :: others := by
        rw [present, List.cons_append]
      exact .stopped before ((goes earlier).trans returned) failed

/-- A delivery tells who is present in turn, and stops where one of them fails. -/
theorem deliver_delivery (notifies : Notifies notify) {state : HandleState}
    (finished : state.handle.finished = true) (listeners : List String) (payload : Payload) :
    let delivered := Trace.outcomeOf (do
      let _ ← Handle.deliver notify listeners payload : HandleProgram Unit) state
    ∃ told, Delivery notify state listeners payload told delivered ∧
      delivered.2.told = state.told ++ told ∧ delivered.2.handle.finished = true := by
  induction listeners generalizing state payload with
  | nil => exact ⟨[], .completed rfl, (List.append_nil _).symm, finished⟩
  | cons listener rest ih =>
      have settled := settled_notify notifies finished listener payload
      simp only [Trace.outcomeOf, bind, EStateM.bind, deliver_cons] at settled ih ⊢
      cases ran : notify listener payload state with
      | ok left middle =>
          rw [ran] at settled
          obtain ⟨told, delivery, heard, still⟩ := ih settled.1 left
          refine ⟨listener :: told, delivery.cons ran, ?_, still⟩
          rw [heard, told_of_settled settled, List.append_assoc, List.singleton_append]
      | error failure after =>
          rw [ran] at settled
          have alone : listener :: rest = [] ++ listener :: rest := rfl
          exact ⟨[listener], .stopped alone rfl ran, told_of_settled settled, settled.1⟩

/-- A handle that can be finished is finished before its output is looked at. -/
theorem finish_of_unfinished {state : HandleState} (unfinished : state.handle.finished = false)
    (output : Value) : finish notify output state = (do
      let payload ← lift (Payload.ofOutput output)
      let _ ← Handle.deliver notify state.handle.listeners payload : HandleProgram Unit)
        state.closed := by
  have looked : (get : HandleProgram HandleState) state = .ok state state := rfl
  simp only [finish, bind, EStateM.bind, looked, Handle.finish?, unfinished, Bool.false_eq_true,
    ↓reduceIte]
  rfl

/-- The first time that a handle is finished with an output, who is subscribed at that moment is
told of it. -/
theorem finish_delivery (notifies : Notifies notify) {state : HandleState}
    (unfinished : state.handle.finished = false) {output : Value} {payload : Payload}
    (read : Payload.ofOutput output = .ok payload) :
    let finished := Trace.outcomeOf (finish notify output) state
    ∃ told, Delivery notify state.closed state.handle.listeners payload told finished ∧
      finished.2.told = state.told ++ told ∧ finished.2.handle.finished = true := by
  have closed : state.closed.handle.finished = true := rfl
  have delivered : Trace.outcomeOf (finish notify output) state = Trace.outcomeOf (do
      let _ ← Handle.deliver notify state.handle.listeners payload) state.closed := by
    rw [Trace.outcomeOf, finish_of_unfinished unfinished, read]
    rfl
  rw [delivered]
  exact deliver_delivery notifies closed state.handle.listeners payload

/-- A handle that is finished with something that is no output is finished, and nobody is told. -/
theorem finish_of_unreadable {state : HandleState} (unfinished : state.handle.finished = false)
    {output : Value} {fault : ValueFault} (unread : Payload.ofOutput output = .error fault) :
    finish notify output state = .error (.value fault) state.closed := by
  rw [finish_of_unfinished unfinished, unread]
  rfl

end Delivery

/-! ## The life of a handle -/

section Life

variable {notify : String → Payload → HandleProgram Payload} {state : HandleState}

/-- Who is told in a delivery comes first among those who are present. -/
theorem Delivery.prefix {listeners told : List String} {payload : Payload}
    {result : Except Failure Unit × HandleState}
    (delivery : Delivery notify state listeners payload told result) : told <+: listeners := by
  cases delivery with
  | completed returned => exact List.prefix_rfl
  | @stopped earlier rest last left middle after failure present returned failed =>
      exact ⟨rest, by rw [present, List.append_assoc, List.singleton_append]⟩

/-- A step that does not finish the handle tells nobody, and subscribes no more than it says. -/
theorem after_take {action : HandleStep} (other : action.isFinish = false) :
    (Trace.take (step notify) state action).after.handle.finished = state.handle.finished ∧
      (Trace.take (step notify) state action).after.told = state.told ∧
      (Trace.take (step notify) state action).after.handle.listeners.Sublist
        (state.handle.listeners ++ action.subscriber?.toList) := by
  cases action with
  | subscribe listener => exact ⟨rfl, rfl, List.Sublist.refl _⟩
  | unsubscribe listener =>
      exact ⟨rfl, rfl, List.erase_sublist.trans (List.sublist_append_left _ _)⟩
  | finish output => cases other
  | raise message => exact ⟨rfl, rfl, List.sublist_append_left _ _⟩
  | write => exact ⟨rfl, rfl, List.sublist_append_left _ _⟩

/-- As long as a handle is not finished nobody is told, and who is subscribed was subscribed before
or by one of the steps. -/
theorem final_unfinished {actions : List HandleStep}
    (others : ∀ action ∈ actions, action.isFinish = false) :
    (Trace.final (step notify) state actions).handle.finished = state.handle.finished ∧
      (Trace.final (step notify) state actions).told = state.told ∧
      (Trace.final (step notify) state actions).handle.listeners.Sublist
        (state.handle.listeners ++ actions.filterMap HandleStep.subscriber?) := by
  induction actions generalizing state with
  | nil => exact ⟨rfl, rfl, List.sublist_append_left _ _⟩
  | cons action rest ih =>
      have first := @after_take notify state action (others action List.mem_cons_self)
      obtain ⟨finished, told, subscribed⟩ :=
        @ih (Trace.take (step notify) state action).after fun later member =>
          others later (List.mem_cons_of_mem _ member)
      refine ⟨finished.trans first.1, told.trans first.2.1, subscribed.trans ?_⟩
      have all : (action :: rest).filterMap HandleStep.subscriber? =
          action.subscriber?.toList ++ rest.filterMap HandleStep.subscriber? := by
        cases subscriber : action.subscriber? <;> simp [subscriber]
      rw [all, ← List.append_assoc]
      exact first.2.2.append_right _

/-- A finished handle stays finished whatever is done to it, and nobody is told any more. -/
theorem final_finished (finished : state.handle.finished = true) (actions : List HandleStep) :
    (Trace.final (step notify) state actions).Settled state.received :=
  Trace.Keeps.final (fun action => (reaction_step notify action).keeps state.received)
    ⟨finished, rfl⟩ actions

/-- An attempt to finish a handle leaves it finished, and tells at most those who are subscribed. -/
theorem finish_told (notifies : Notifies notify) (state : HandleState) (output : Value) :
    let finished := Trace.outcomeOf (finish notify output) state
    ∃ told, finished.2.told = state.told ++ told ∧ told <+: state.handle.listeners ∧
      finished.2.handle.finished = true := by
  cases already : state.handle.finished with
  | true =>
      rw [Trace.outcomeOf, finish_of_finished notify output already]
      exact ⟨[], (List.append_nil _).symm, List.nil_prefix, already⟩
  | false =>
      cases read : Payload.ofOutput output with
      | ok payload =>
          obtain ⟨told, delivery, heard, finished⟩ := finish_delivery notifies already read
          exact ⟨told, heard, delivery.prefix, finished⟩
      | error fault =>
          rw [Trace.outcomeOf, finish_of_unreadable already read]
          exact ⟨[], (List.append_nil _).symm, List.nil_prefix, rfl⟩

theorem after_take_finish (output : Value) :
    (Trace.take (step notify) state (.finish output)).after =
      (Trace.outcomeOf (finish notify output) state).2 := by
  simp only [Trace.take, Trace.outcomeOf, step, bind, EStateM.bind]
  cases finish notify output state <;> rfl

/-- Over the whole life of a handle, those who are told come first among those who are subscribed
when it is finished for the first time, each subscription once. -/
theorem final_told (notifies : Notifies notify) (state : HandleState)
    (actions : List HandleStep) :
    ∃ told, (Trace.final (step notify) state actions).told = state.told ++ told ∧
      told <+: (Trace.final (step notify) state
        (HandleStep.beforeFinish actions)).handle.listeners := by
  have others : ∀ action ∈ HandleStep.beforeFinish actions, action.isFinish = false :=
    fun _ => HandleStep.isFinish_of_mem_beforeFinish
  have untold := (@final_unfinished notify state _ others).2.1
  obtain never | ⟨output, rest, split⟩ := HandleStep.beforeFinish_append actions
  · rw [never] at untold
    exact ⟨[], untold.trans (List.append_nil _).symm, List.nil_prefix⟩
  · have parts : Trace.final (step notify) state actions = Trace.final (step notify)
        (Trace.final (step notify) state (HandleStep.beforeFinish actions))
        (.finish output :: rest) := by
      rw [Trace.final, Trace.final, Trace.final, ← List.foldl_append, ← split]
    rw [parts]
    generalize Trace.final (step notify) state (HandleStep.beforeFinish actions) = ready at *
    obtain ⟨told, heard, among, finished⟩ := finish_told notifies ready output
    rw [← after_take_finish] at heard finished
    have later := (@final_finished notify _ finished rest).2
    refine ⟨told, ?_, among⟩
    rw [← untold, ← heard, HandleState.told, HandleState.told, ← later]
    rfl

/-- Who is subscribed when a handle is finished for the first time was subscribed before all steps
or by one of the steps before it. -/
theorem present_sublist (state : HandleState) (actions : List HandleStep) :
    (Trace.final (step notify) state (HandleStep.beforeFinish actions)).handle.listeners.Sublist
      (state.handle.listeners ++
        (HandleStep.beforeFinish actions).filterMap HandleStep.subscriber?) :=
  (final_unfinished fun _ => HandleStep.isFinish_of_mem_beforeFinish).2.2

end Life

/-- A handle tells who is subscribed when it is finished, once.  Finished for the first time, it
tells the subscriptions of that moment in their order, up to the first listener that fails, whatever
the listeners do to it.  Inside a notification and afterwards it refuses to be finished, and tells
nobody.  So whatever steps are taken, each subscription is told at most once. -/
theorem told_of_present :
    (∀ listeners depth, Notifies (HandleProgram.notify listeners (depth + 1))) ∧
    (∀ entries, Payload.ofOutput (.dict entries) = .ok entries) ∧
    ∀ notify, Notifies notify → ∀ state : HandleState,
      (state.handle.finished = false → ∀ output,
        let finished := Trace.outcomeOf (finish notify output) state
        finished.2.handle.finished = true ∧
        match Payload.ofOutput output with
        | .ok payload => ∃ told, Delivery notify state.closed state.handle.listeners payload told
            finished ∧ finished.2.told = state.told ++ told
        | .error fault => finished = (.error (.value fault), state.closed)) ∧
      (state.handle.finished = true → ∀ {α : Type} (before : HandleProgram α), Reaction before →
        ∀ nested output,
          let reached := (Trace.outcomeOf before state).2
          reached.told = state.told ∧
          finish nested output reached = .error (.alreadyFinished reached.handle.stage) reached) ∧
      ∀ actions, ∃ told,
        (Trace.final (step notify) state actions).told = state.told ++ told ∧
        told <+: (Trace.final (step notify) state
          (HandleStep.beforeFinish actions)).handle.listeners ∧
        told.Sublist (state.handle.listeners ++
          (HandleStep.beforeFinish actions).filterMap HandleStep.subscriber?) := by
  refine ⟨notifies_notify, Payload.ofOutput_dict, fun notify notifies state => ⟨?_, ?_, ?_⟩⟩
  · intro unfinished output
    obtain ⟨-, -, -, finished⟩ := finish_told notifies state output
    refine ⟨finished, ?_⟩
    cases read : Payload.ofOutput output with
    | ok payload =>
        obtain ⟨told, delivery, heard, -⟩ := finish_delivery notifies unfinished read
        exact ⟨told, delivery, heard⟩
    | error fault => rw [Trace.outcomeOf, finish_of_unreadable unfinished read]
  · intro finished α before reaction nested output
    have settled := (reaction.keeps state.received state ⟨finished, rfl⟩).2
    refine ⟨?_, finish_of_finished nested output settled.1⟩
    rw [HandleState.told, settled.2, HandleState.told]
  · intro actions
    obtain ⟨told, heard, among⟩ := final_told notifies state actions
    exact ⟨told, heard, among, among.sublist.trans (present_sublist state actions)⟩

namespace Roster

/-- The first listener takes itself off and asks the third in, the second finishes the handle again,
and the fourth is never reached. -/
def listeners : Entries String (List HandleStep) :=
  [("first", [.unsubscribe "first", .subscribe "third"]), ("second", [.finish .null])]

def fresh : HandleState := { handle := .ofStage "Look" none }

/-- The handle with its subscriptions, before it is finished. -/
def state : HandleState :=
  Trace.final (perform listeners) fresh
    [.subscribe "first", .subscribe "first", .subscribe "second", .subscribe "fourth"]

def after : HandleState :=
  (Trace.take (perform listeners) state (.finish (.dict [(.text "seat", .int 3)]))).after

def actions : List HandleStep :=
  [.unsubscribe "fourth", .finish (.dict []), .finish .null, .write]

theorem told_of_present_roster :
    state.handle.finished = false ∧
      after.told = ["first", "first", "second"] ∧
      after.handle.listeners = ["second", "fourth", "third", "third"] ∧
      (Trace.final (perform listeners) state actions).told = ["first", "first", "second"] ∧
      (∃ told, Delivery (notify listeners depthLimit) state.closed
          ["first", "first", "second", "fourth"] [(.text "seat", .int 3)] told
          (Trace.outcomeOf (finish (notify listeners depthLimit)
            (.dict [(.text "seat", .int 3)])) state) ∧
        after.told = [] ++ told) ∧
      (after.handle.finished = true ∧ finish (notify listeners depthLimit) .null after =
        .error (.alreadyFinished "Look") after) ∧
      ∃ told, (Trace.final (perform listeners) state actions).told = [] ++ told ∧
        told <+: ["first", "first", "second"] := by
  obtain ⟨scripted, -, tells⟩ := told_of_present
  have notifies : Notifies (notify listeners depthLimit) := scripted listeners 1
  have unfinished : state.handle.finished = false := by decide +kernel
  have finished : after.handle.finished = true := by decide +kernel
  obtain ⟨told, heard, among, -⟩ := (tells _ notifies state).2.2 actions
  refine ⟨unfinished, by decide +kernel, by decide +kernel, by decide +kernel,
    ((tells _ notifies state).1 unfinished (.dict [(.text "seat", .int 3)])).2,
    ⟨finished, ((tells _ notifies after).2.1 finished (pure ()) (.answer ()) _ _).2⟩,
    told, heard, among⟩

end Roster

end HandleProgram

end Workflow
