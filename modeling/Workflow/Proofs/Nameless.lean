import Workflow.Proofs.Admission
import Workflow.Proofs.Layout
import Workflow.Proofs.Showing

/-!
# Stages without names

A definition text is taken apart at semicolons, and blank parts are no stages.  The parts of a part
are not looked at again: what stands before its parentheses may be blank, and so may a token between
them.  Such a part makes a stage without a name, or one with an empty token, and nothing else does.
Everything else that the grammar says of names and tokens holds of every stage that is read.
-/

namespace Workflow

open Text

theorem Text.ofList_trim_eq_empty_iff {text : List Char} :
    String.ofList (trim text) = "" ↔ isBlankText text = true := by
  rw [← trim_eq_nil_iff, ← String.toList_eq_nil_iff, String.toList_ofList]

namespace StagePlan

variable {stage : StagePlan} {part body : List Char}

/-- A part of a definition text with nothing but blank space before its parentheses. -/
def Nameless (part : List Char) : Prop :=
  ∃ before body after, isBlankText before = true ∧ isBlankText after = true ∧
    part = before ++ '(' :: (body ++ ')' :: after)

/-- A part of a definition text whose parentheses are not blank, but a token between them is. -/
def Gapped (part : List Char) : Prop :=
  ∃ before body after, '(' ∉ before ∧ isBlankText after = true ∧
    part = before ++ '(' :: (body ++ ')' :: after) ∧ isBlankText body = false ∧
      ∃ gap ∈ splitAt ',' body, isBlankText gap = true

/-- What a stage that is read from a part of a definition text has of the grammar's names and
tokens. -/
structure Obeys (part : List Char) (stage : StagePlan) : Prop where
  name_trimmed : Trimmed stage.name.toList
  name_semicolon : ';' ∉ stage.name.toList
  name_opening : ∀ tokens ∈ stage.tokens, '(' ∉ stage.name.toList
  token_trimmed : ∀ tokens ∈ stage.tokens, ∀ token ∈ tokens, Trimmed token.toList
  token_comma : ∀ tokens ∈ stage.tokens, ∀ token ∈ tokens, ',' ∉ token.toList
  token_semicolon : ∀ tokens ∈ stage.tokens, ∀ token ∈ tokens, ';' ∉ token.toList
  unnamed_iff : stage.name = "" ↔ Nameless part
  missing_iff : (∃ tokens ∈ stage.tokens, "" ∈ tokens) ↔ Gapped part

theorem empty_mem_parseTokens_iff :
    "" ∈ parseTokens body ↔
      isBlankText body = false ∧ ∃ gap ∈ splitAt ',' body, isBlankText gap = true := by
  cases blank : isBlankText body with
  | true => simp [parseTokens, blank]
  | false => simp [parseTokens, blank, trim_eq_nil_iff]

/-- A part that is not blank is read as a stage without a name exactly if nothing but blank space
stands before its parentheses. -/
theorem name_parse_eq_empty_iff (inked : isBlankText part = false) :
    (parse part).name = "" ↔ Nameless part := by
  constructor
  · intro empty
    rw [parse] at empty
    cases called : call? (trim part) with
    | none =>
        rw [called, ofList_trim_eq_empty_iff, inked] at empty
        cases empty
    | some call =>
        obtain ⟨before, after, -, blankAfter, named, shape⟩ := call?_trim_eq_some_iff.mp called
        simp only [called, named, ofList_trim_eq_empty_iff] at empty
        exact ⟨before, call.2, after, empty, blankAfter, shape⟩
  · rintro ⟨before, body, after, blank, blankAfter, shape⟩
    have absent : '(' ∉ before := by
      intro member
      exact absurd (isBlankText_iff.mp blank _ member) (by decide)
    have called := call?_trim_eq_some_iff.mpr ⟨before, after, absent, blankAfter, rfl, shape⟩
    simp only [parse, called, ofList_trim_eq_empty_iff.mpr blank]

/-- A part is read as a stage with an empty token exactly if it has a gap. -/
theorem empty_mem_tokens_parse_iff :
    (∃ tokens ∈ (parse part).tokens, "" ∈ tokens) ↔ Gapped part := by
  constructor
  · rintro ⟨tokens, listed, member⟩
    rw [parse] at listed
    cases called : call? (trim part) with
    | none =>
        rw [called] at listed
        cases listed
    | some call =>
        obtain ⟨before, after, absent, blankAfter, -, shape⟩ := call?_trim_eq_some_iff.mp called
        simp only [called, Option.mem_some_iff] at listed
        obtain ⟨inked, gap⟩ := empty_mem_parseTokens_iff.mp (listed ▸ member)
        exact ⟨before, call.2, after, absent, blankAfter, shape, inked, gap⟩
  · rintro ⟨before, body, after, absent, blankAfter, shape, inked, gap⟩
    have called := call?_trim_eq_some_iff.mpr ⟨before, after, absent, blankAfter, rfl, shape⟩
    simp only [parse, called, Option.mem_some_iff, exists_eq_left']
    exact empty_mem_parseTokens_iff.mpr ⟨inked, gap⟩

theorem obeys_parse (plain : ';' ∉ part) (inked : isBlankText part = false) :
    Obeys part (parse part) := by
  obtain ⟨trimmed, semicolon, shape⟩ := legible_parse plain inked
  have listed {tokens : List String} (listed : tokens ∈ (parse part).tokens) :
      '(' ∉ (parse part).name.toList ∧ LegibleTokens tokens := by
    rw [Option.mem_def] at listed
    rw [listed] at shape
    exact shape
  exact {
    name_trimmed := trimmed
    name_semicolon := semicolon
    name_opening := fun tokens member => (listed member).1
    token_trimmed := fun tokens member => (listed member).2.trimmed
    token_comma := fun tokens member => (listed member).2.comma
    token_semicolon := fun tokens member => (listed member).2.semicolon
    unnamed_iff := name_parse_eq_empty_iff inked
    missing_iff := empty_mem_tokens_parse_iff }

end StagePlan

namespace Plan

/-- Each part of a definition text that is not blank is read as a stage of its own. -/
theorem obeys_parse (text : String) :
    List.Forall₂ StagePlan.Obeys (chunks text.toList) (parse text) := by
  rw [parse, List.forall₂_map_right_iff, List.forall₂_same]
  intro part member
  obtain ⟨there, inked⟩ := List.mem_filter.mp member
  apply StagePlan.obeys_parse (not_mem_of_mem_splitAt there)
  simpa using inked

/-- The stages of a text have names exactly if no part of it is without one. -/
theorem named_iff (text : String) :
    (∀ stage ∈ parse text, stage.name ≠ "") ↔
      ∀ part ∈ chunks text.toList, ¬ StagePlan.Nameless part := by
  rw [parse, List.forall_mem_map]
  refine forall₂_congr fun part member => ?_
  have inked := (List.mem_filter.mp member).2
  rw [Ne, StagePlan.name_parse_eq_empty_iff (by simpa using inked)]

end Plan

/-- Every stage of every registered workflow has a name. -/
def Registry.Named (registry : Registry) : Prop :=
  ∀ definition ∈ registry.definitions, ∀ stage ∈ definition.stages, stage.name ≠ ""

namespace Registry

variable {registry altered : Registry} {registration : Registration} {definition : Definition}

/-- The stages of a workflow that is registered are read from the parts of its plan. -/
theorem obeys_register (accepted : registry.register registration = .ok (altered, definition)) :
    List.Forall₂ StagePlan.Obeys (Plan.chunks registration.plan.toList)
      (definition.stages.map Stage.planned) := by
  rw [(answers_of_define (register_eq_ok accepted).1).planned]
  exact Plan.obeys_parse registration.plan

/-- A registration leaves stages without names out of the registry exactly if no part of its plan is
without one. -/
theorem Named.register_iff (named : registry.Named)
    (accepted : registry.register registration = .ok (altered, definition)) :
    altered.Named ↔ ∀ part ∈ Plan.chunks registration.plan.toList, ¬ StagePlan.Nameless part := by
  obtain ⟨defined, rfl⟩ := register_eq_ok accepted
  have planned : (∀ stage ∈ definition.stages, stage.name ≠ "") ↔
      ∀ part ∈ Plan.chunks registration.plan.toList, ¬ StagePlan.Nameless part := by
    rw [← Plan.named_iff, ← (answers_of_define defined).planned, List.forall_mem_map]
    rfl
  rw [← planned]
  constructor
  · intro every
    exact every definition (mem_definitions (get_of_register accepted))
  · intro fresh other member
    obtain ⟨entry, there, rfl⟩ := List.mem_map.mp member
    rcases (Entries.placed_iff.mpr rfl).mem there with before | new
    · exact named _ (List.mem_map_of_mem before)
    · cases new
      exact fresh

end Registry

namespace Engine

variable {host : Host} {state : State}

/-- No operation but a registration puts a stage without a name into the registry. -/
theorem take_named (contained : host.Contained) (sound : state.Sound) {operation : Operation}
    (controls : operation.controls = true) (named : state.registry.Named)
    (plain : ∀ request, operation = .register request →
      ∀ part ∈ Plan.chunks request.plan.toList, ¬ StagePlan.Nameless part) :
    (Trace.take (perform host) state operation).after.registry.Named := by
  cases operation with
  | register request =>
      rw [after_take]
      rcases enters_perform host request state with
        same | ⟨registration, definition, planned, accepted⟩
      · exact same ▸ named
      · exact (named.register_iff accepted).mpr (planned ▸ plain request rfl)
  | _ =>
      rw [(take_passage contained sound controls).registry_eq contained sound rfl]
      exact named

/-- What is drawn from a registry all of whose stages have names has a name. -/
theorem stage_ne_of_drawn {registry : Registry} (named : registry.Named) {showing : Showing}
    {instances : List Instance} (drawn : showing.Drawn registry instances) :
    showing.stage ≠ "" := by
  obtain ⟨number, inst, definition, stage, values, -, -, defined, member, same, -⟩ := drawn
  rw [same]
  exact named definition (Registry.mem_definitions defined) stage member

/-- As long as no part of a plan is without a name, every stage that is shown has one. -/
theorem showings_final (contained : host.Contained) (sound : state.Sound)
    {operations : List Operation} (controls : ∀ operation ∈ operations, operation.controls = true)
    (named : state.registry.Named)
    (plain : ∀ request, .register request ∈ operations →
      ∀ part ∈ Plan.chunks request.plan.toList, ¬ StagePlan.Nameless part) :
    ∃ shown, (Trace.final (perform host) state operations).showings = shown ++ state.showings ∧
      ∀ showing ∈ shown, showing.stage ≠ "" := by
  induction operations generalizing state with
  | nil => exact ⟨[], rfl, nofun⟩
  | cons operation rest ih =>
      have controlled := controls operation List.mem_cons_self
      have passage := take_passage contained sound controlled
      have kept := take_named contained sound controlled named
        fun request same => plain request (same ▸ List.mem_cons_self)
      obtain ⟨first, shownFirst, drawn⟩ := (exhibits_perform contained sound controlled).shown
      rw [← after_take] at shownFirst drawn
      obtain ⟨later, shownLater, namedLater⟩ := ih (passage.sound contained sound)
        (fun later member => controls later (List.mem_cons_of_mem _ member)) kept
        fun request member => plain request (List.mem_cons_of_mem _ member)
      refine ⟨later ++ first, ?_, ?_⟩
      · rw [List.append_assoc, ← shownFirst]
        exact shownLater
      · intro showing member
        rcases List.mem_append.mp member with afterwards | now
        · exact namedLater showing afterwards
        · exact stage_ne_of_drawn named (drawn showing now)

/-- The stages of a workflow that is registered are read from the parts of its plan.  They are as
the grammar says, but for names that are empty where nothing stands before the parentheses, and
tokens that are empty where nothing stands in their place.  Stages without names enter a registry,
and are shown, only if such a part was registered. -/
theorem obeys_of_registered {registry altered : Registry} {registration : Registration}
    {definition : Definition}
    (accepted : registry.register registration = .ok (altered, definition)) :
    Registry.get altered registration.name = .ok definition ∧
    List.Forall₂ StagePlan.Obeys (Plan.chunks registration.plan.toList)
      (definition.stages.map Stage.planned) ∧
    (registry.Named → (altered.Named ↔
      ∀ part ∈ Plan.chunks registration.plan.toList, ¬ StagePlan.Nameless part)) ∧
    ∀ (host : Host) (state : State) (operations : List Operation), host.Contained → state.Sound →
      (∀ operation ∈ operations, operation.controls = true) → state.registry.Named →
      (∀ request, .register request ∈ operations →
        ∀ part ∈ Plan.chunks request.plan.toList, ¬ StagePlan.Nameless part) →
      ∃ shown, (Trace.final (perform host) state operations).showings = shown ++ state.showings ∧
        ∀ showing ∈ shown, showing.stage ≠ "" := by
  refine ⟨Registry.get_of_register accepted, Registry.obeys_register accepted, ?_, ?_⟩
  · intro named
    exact named.register_iff accepted
  · intro host state operations contained sound controls named plain
    exact showings_final contained sound controls named plain

end Engine

/-- The trip is registered from parts with names, and when its detour is registered as well and the
trip is made, nothing else is shown than their stages. -/
theorem Engine.obeys_of_registered_detour :
    ∃ altered definition,
      Registry.register [] { name := "Trip", plan := "Go(seat, :window); ;Return" } =
          .ok (altered, definition) ∧
        Registry.get altered "Trip" = .ok definition ∧
        List.Forall₂ StagePlan.Obeys (Plan.chunks "Go(seat, :window); ;Return".toList)
          (definition.stages.map Stage.planned) ∧
        altered.Named ∧
        ∃ shown, Detour.visiting.showings = shown ++ Detour.start.showings ∧
          (∀ showing ∈ shown, showing.stage ≠ "") ∧
          Detour.visiting.showings.map (·.stage) = ["Look", "Return", "Go"] := by
  have named : Detour.start.registry.Named := by
    have plain : ∀ definition ∈ Detour.start.registry.definitions,
        ∀ stage ∈ definition.stages, stage.name ≠ "" := by decide +kernel
    exact plain
  have plain : ∀ request, .register request ∈ Detour.operations →
      ∀ part ∈ Plan.chunks request.plan.toList, ¬ StagePlan.Nameless part := by
    intro request member
    apply (Plan.named_iff request.plan).mp
    simp only [Detour.operations, List.mem_cons, Operation.register.injEq, reduceCtorEq,
      List.not_mem_nil, or_false] at member
    rcases member with rfl | rfl
    · decide +kernel
    · decide +kernel
  obtain ⟨altered, definition, accepted⟩ : ∃ altered definition, Registry.register []
      { name := "Trip", plan := "Go(seat, :window); ;Return" } = .ok (altered, definition) :=
    ⟨_, _, rfl⟩
  obtain ⟨found, obeys, entered, shows⟩ := obeys_of_registered accepted
  have fresh : altered.Named := (entered nofun).mpr ((Plan.named_iff _).mp (by decide +kernel))
  obtain ⟨shown, showings, stages⟩ := shows Detour.host Detour.start Detour.operations
    Detour.contained Detour.built.sound (by decide +kernel) named plain
  exact ⟨altered, definition, accepted, found, obeys, fresh, shown, showings, stages,
    by decide +kernel⟩

/-! ## A seat without a stage

A plan of nothing but a token in parentheses, with a comma behind it, is accepted. -/

namespace Seat

def booking : List Operation :=
  [.register { name := "Trip", plan := "(seat,)" }, .invoke (.text "Trip(seat=3)") false]

/-- The stage has no name and an empty token, and it is shown under its empty name. -/
theorem shown_seat :
    (∃ altered definition, Registry.register [] { name := "Trip", plan := "(seat,)" } =
        .ok (altered, definition) ∧
          definition.stages.map Stage.planned = [⟨"", some ["seat", ""]⟩]) ∧
      (Trace.final (Engine.perform Detour.host) Detour.start booking).showings.map
        (fun showing => (showing.inst, showing.stage)) = [(some 0, "")] :=
  ⟨⟨_, _, rfl, by rfl⟩, by decide +kernel⟩

end Seat

end Workflow
